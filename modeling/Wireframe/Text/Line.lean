/-!
# Lines

A text is cut into lines at its line feeds and put together again with line feeds. The two are
inverse to each other: `unlines_lines` holds of every text and `lines_unlines` of every non-empty
list of lines that hold no line feed themselves.
-/

namespace Wireframe

/-- A line of text, as its characters. -/
abbrev Line := List Char

namespace Text

/-- The pieces of a text between the characters at which it is cut. There is always at least one
piece. -/
def pieces (cut : Char → Bool) : List Char → List Line
  | [] => [[]]
  | c :: cs =>
    if cut c then [] :: pieces cut cs
    else match pieces cut cs with
      | [] => [[c]]
      | piece :: rest => (c :: piece) :: rest

/-- The lines of a text, cut at every line feed. -/
def lines (cs : List Char) : List Line := pieces (· == '\n') cs

/-- Lines put together with a line feed between neighbours. -/
def unlines : List Line → List Char
  | [] => []
  | [line] => line
  | line :: next :: rest => line ++ '\n' :: unlines (next :: rest)

/-- A carriage return directly before a line feed is dropped. Any other one stays. This is
`normalize` of `parser`. -/
def unifyNewlines : List Char → List Char
  | [] => []
  | c :: cs => if c = '\r' ∧ cs.head? = some '\n' then unifyNewlines cs else c :: unifyNewlines cs

/-- The text of several lines as one string. -/
def block (ls : List Line) : String := String.ofList (unlines ls)

/-- There is at least one piece. -/
theorem pieces_ne_nil (cut : Char → Bool) (cs : List Char) : pieces cut cs ≠ [] := by
  cases cs with
  | nil => simp [pieces]
  | cons c cs =>
    unfold pieces
    split
    · simp
    · split <;> simp

/-- There is at least one line. -/
theorem lines_ne_nil (cs : List Char) : lines cs ≠ [] := pieces_ne_nil _ cs

/-- No piece holds a character at which the text is cut. -/
theorem cut_eq_false_of_mem_pieces {cut : Char → Bool} {cs piece : List Char} {c : Char}
    (h : piece ∈ pieces cut cs) (hc : c ∈ piece) : cut c = false := by
  induction cs generalizing piece with
  | nil => simp_all [pieces]
  | cons d cs ih =>
    unfold pieces at h
    split at h
    · rcases List.mem_cons.1 h with rfl | h
      · simp at hc
      · exact ih h hc
    · next hd =>
      split at h
      · next heq => exact absurd heq (pieces_ne_nil cut cs)
      · next first rest heq =>
        -- The first piece has one more character in front, at which the text is not cut.
        rcases List.mem_cons.1 h with rfl | h
        · rcases List.mem_cons.1 hc with rfl | hc
          · simpa using hd
          · exact ih (heq ▸ List.mem_cons_self) hc
        · exact ih (heq ▸ List.mem_cons_of_mem _ h) hc

/-- Any other character in front belongs to the first piece. -/
theorem pieces_cons {cut : Char → Bool} {c : Char} (h : cut c = false) {cs piece : List Char}
    {rest : List Line} (hcs : pieces cut cs = piece :: rest) :
    pieces cut (c :: cs) = (c :: piece) :: rest := by
  unfold pieces
  rw [h, hcs]
  rfl

/-- A text without a character to cut at is one piece. -/
theorem pieces_of_forall {cut : Char → Bool} {piece : List Char} (h : ∀ c ∈ piece, cut c = false) :
    pieces cut piece = [piece] := by
  induction piece with
  | nil => rfl
  | cons c piece ih =>
    exact pieces_cons (h c List.mem_cons_self) (ih fun d hd => h d (List.mem_cons_of_mem c hd))

/-- The text up to the first character to cut at is the first piece. -/
theorem pieces_append_cons {cut : Char → Bool} {piece : List Char} (h : ∀ c ∈ piece, cut c = false)
    {d : Char} (hd : cut d = true) (cs : List Char) :
    pieces cut (piece ++ d :: cs) = piece :: pieces cut cs := by
  induction piece with
  | nil =>
    show pieces cut (d :: cs) = [] :: pieces cut cs
    rw [pieces, if_pos hd]
  | cons c piece ih =>
    exact pieces_cons (h c List.mem_cons_self) (ih fun d hd => h d (List.mem_cons_of_mem c hd))

/-- The pieces hold what the text holds, apart from the characters at which it is cut. -/
theorem mem_iff_exists_mem_pieces {cut : Char → Bool} {c : Char} (hc : cut c = false)
    (cs : List Char) : c ∈ cs ↔ ∃ piece ∈ pieces cut cs, c ∈ piece := by
  induction cs with
  | nil => simp [pieces]
  | cons d cs ih =>
    unfold pieces
    split
    · next hd =>
      have hne : c ≠ d := fun h => by simp [← h, hc] at hd
      rw [List.mem_cons, or_iff_right hne, ih]
      simp
    · cases hcs : pieces cut cs with
      | nil => exact absurd hcs (pieces_ne_nil cut cs)
      | cons first rest =>
        rw [List.mem_cons, ih, hcs]
        simp [or_assoc]

/-- No line holds a line feed. -/
theorem newline_not_mem_of_mem_lines {cs : List Char} {line : Line} (h : line ∈ lines cs) :
    '\n' ∉ line := fun hc => by
  simpa using cut_eq_false_of_mem_pieces h hc

/-- A line feed in front ends an empty line. -/
theorem lines_newline_cons (cs : List Char) : lines ('\n' :: cs) = [] :: lines cs := by
  simp [lines, pieces]

/-- Any other character in front belongs to the first line. -/
theorem lines_cons {c : Char} (h : c ≠ '\n') {cs : List Char} {line : Line} {rest : List Line}
    (hcs : lines cs = line :: rest) : lines (c :: cs) = (c :: line) :: rest := by
  refine pieces_cons ?_ hcs
  exact beq_false_of_ne h

/-- A line is parted from those behind it by a line feed. -/
theorem unlines_cons (line : Line) {rest : List Line} (h : rest ≠ []) :
    unlines (line :: rest) = line ++ '\n' :: unlines rest := by
  cases rest with
  | nil => exact absurd rfl h
  | cons next rest => rfl

/-- The first character of the first line comes first. -/
theorem unlines_cons_char (c : Char) (line : Line) (rest : List Line) :
    unlines ((c :: line) :: rest) = c :: unlines (line :: rest) := by
  cases rest <;> rfl

/-- Cutting loses nothing. -/
theorem unlines_lines (cs : List Char) : unlines (lines cs) = cs := by
  induction cs with
  | nil => rfl
  | cons c cs ih =>
    by_cases h : c = '\n'
    · subst h
      rw [lines_newline_cons, unlines_cons _ (lines_ne_nil cs), ih]
      rfl
    · cases hcs : lines cs with
      | nil => exact absurd hcs (lines_ne_nil cs)
      | cons line rest => rw [lines_cons h hcs, unlines_cons_char, ← hcs, ih]

/-- A line without a line feed is not cut. -/
theorem forall_cut_eq_false {line : Line} (h : '\n' ∉ line) :
    ∀ c ∈ line, (fun d : Char => d == '\n') c = false := by
  intro c hc
  apply beq_false_of_ne
  rintro rfl
  exact h hc

/-- A text without a line feed is one line. -/
theorem lines_of_not_mem (line : Line) (h : '\n' ∉ line) : lines line = [line] :=
  pieces_of_forall (forall_cut_eq_false h)

/-- The text up to the first line feed is the first line. -/
theorem lines_append_newline (line : Line) (h : '\n' ∉ line) (cs : List Char) :
    lines (line ++ '\n' :: cs) = line :: lines cs :=
  pieces_append_cons (forall_cut_eq_false h) rfl cs

/-- Lines without a line feed come back as they were. -/
theorem lines_unlines (ls : List Line) (hne : ls ≠ []) (h : ∀ l ∈ ls, '\n' ∉ l) :
    lines (unlines ls) = ls := by
  induction ls with
  | nil => exact absurd rfl hne
  | cons line rest ih =>
    have hl := h line (by simp)
    cases rest with
    | nil => exact lines_of_not_mem line hl
    | cons next rest =>
      rw [unlines_cons _ (by simp), lines_append_newline _ hl,
        ih (by simp) (fun l hm => h l (by simp [hm]))]

/-- So do lines that were made into a text. -/
theorem lines_block {ls : List Line} (hne : ls ≠ []) (h : ∀ l ∈ ls, '\n' ∉ l) :
    lines (block ls).toList = ls := by
  rw [block, String.toList_ofList, lines_unlines ls hne h]

/-- And so does a text that was cut into lines. -/
theorem block_lines (text : String) : block (lines text.toList) = text := by
  rw [block, unlines_lines, String.ofList_toList]

/-- What several lines put together hold, apart from the line feeds between them, the lines hold. -/
theorem mem_unlines_iff {ls : List Line} {c : Char} (h : c ≠ '\n') :
    c ∈ unlines ls ↔ ∃ line ∈ ls, c ∈ line := by
  induction ls with
  | nil => simp [unlines]
  | cons line rest ih =>
    cases rest with
    | nil => simp [unlines]
    | cons next rest =>
      rw [unlines_cons _ (List.cons_ne_nil next rest), List.mem_append, List.mem_cons, ih]
      simp [h]

/-- What a text holds, apart from line feeds, its lines hold. -/
theorem mem_iff_exists_mem_lines {cs : List Char} {c : Char} (h : c ≠ '\n') :
    c ∈ cs ↔ ∃ line ∈ lines cs, c ∈ line := by
  apply mem_iff_exists_mem_pieces
  exact beq_false_of_ne h

end Text

end Wireframe
