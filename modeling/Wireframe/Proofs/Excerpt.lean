import Wireframe.Proofs.Checked.Report

/-!
# The excerpt in a report

The report of a problem shows the lines of the text around it. A `Layout` says how these lines are
put together: those above the problem, its own line with a caret below it, and those below, each
behind a gutter. `Layout.Shows` says what makes it an excerpt: exactly the lines within the context
are shown, all gutters have one length, so that the caret stands under its column, and only the
line of the problem is marked. The length is that of the last line's number, which no number shown
exceeds (`length_gutter`). The main statement is `report_shows_excerpt`.
-/

namespace Wireframe.Diagnostic

/-! ## Layouts -/

/-- How the lines of an excerpt are put together. -/
structure Layout where
  /-- The rows above that of the problem. -/
  above : List Nat
  /-- The rows below it. -/
  below : List Nat
  /-- What stands in front of the line of a row. -/
  front : Nat → Line
  /-- The length of what stands there. -/
  width : Nat

namespace Layout

/-- The rows that are shown. -/
def rows (l : Layout) (row : Nat) : List Nat := l.above ++ row :: l.below

/-- The line of a row, with what stands in front of it. -/
def shown (l : Layout) (source : List Line) (i : Nat) : Line := l.front i ++ source[i]?.getD []

/-- A caret under a column of the lines. -/
def caret (l : Layout) (col : Nat) : Line := List.replicate (l.width + col) ' ' ++ ['^']

/-- The lines of the excerpt. The line of the problem is followed by the caret. -/
def lines (l : Layout) (source : List Line) (row col : Nat) : List Line :=
  l.above.map (l.shown source) ++ [l.shown source row, l.caret col] ++ l.below.map (l.shown source)

/-- The lines are those of a text that are at most `context` rows away from a row. -/
structure Shows (l : Layout) (source : List Line) (row context : Nat) : Prop where
  /-- The rows are shown in order, and none of them twice. -/
  ordered : (l.rows row).Pairwise (· < ·)
  /-- They are the rows of the text within the context. -/
  mem_iff : ∀ i, i ∈ l.rows row ↔ i < source.length ∧ row ≤ i + context ∧ i ≤ row + context
  /-- What stands in front of the lines has one length. -/
  length_eq : ∀ i ∈ l.rows row, (l.front i).length = l.width
  /-- The row of the problem is marked, and no other one. -/
  marked_iff : ∀ i ∈ l.rows row, (l.front i).head? = some '>' ↔ i = row
  /-- Behind the place of the mark stands the number of the line. -/
  numbered : ∀ i ∈ l.rows row, ∃ mark blanks, l.front i =
    mark :: ' ' :: List.replicate blanks ' ' ++ Text.digits (i + 1) ++ " | ".toList

end Layout

/-! ## The lines of an excerpt -/

variable {count row col context width i : Nat} {source : List Line} {line : Line}

/-- Around a row of a text, these are the rows of the text within the context. -/
theorem mem_window_iff_le :
    i ∈ window count row context ↔ i < count ∧ row ≤ i + context ∧ i ≤ row + context := by
  rw [mem_window_iff]
  omega

/-- The numbers of the lines in an excerpt are not wider than that of the last one. -/
theorem length_digits_le_numberWidth (hi : i ∈ window count row context) :
    (Text.digits ((i + 1 : Nat) : Int)).length ≤ numberWidth count row context := by
  obtain ⟨hcount, -, hbelow⟩ := mem_window_iff_le.1 hi
  have hlast : min (count : Int) ((row : Int) + context + 1) =
      (min count (row + context + 1) : Nat) := by omega
  unfold numberWidth
  rw [hlast]
  -- The row stands within the context, and so in front of the end of the window.
  apply Text.length_digits_mono
  omega

/-- So all gutters have the same length. -/
theorem length_gutter (hi : i ∈ window count row context) :
    (gutter (numberWidth count row context) row i).length = numberWidth count row context + 5 := by
  have hdigits := length_digits_le_numberWidth hi
  have hnumber : (Text.padLeft (numberWidth count row context)
      (Text.digits ((i : Int) + 1))).length = numberWidth count row context := by
    rw [Text.length_padLeft]
    exact Nat.max_eq_left hdigits
  unfold gutter
  rw [List.length_append, List.length_cons, List.length_cons, hnumber]
  rfl

/-- A gutter begins with the mark if it belongs to the row of the problem, and only then. -/
theorem head?_gutter_iff : (gutter width row i).head? = some '>' ↔ i = row := by
  have hhead : (gutter width row i).head? = some (if (i : Int) = row then '>' else ' ') := rfl
  rw [hhead, Option.some.injEq]
  by_cases heq : i = row
  · simp [heq]
  · have hne : ¬ (i : Int) = row := by omega
    simp [heq, hne]

/-- The line of another row than that of the problem has one line in the excerpt. -/
theorem excerptLines_of_ne (h : i ≠ row) :
    excerptLines width ⟨row, col⟩ i line = [gutter width row i ++ line] := by
  have hne : ¬ (i : Int) = row := by omega
  unfold excerptLines
  exact if_neg hne

/-- The line of the problem is followed by the caret. -/
theorem excerptLines_self :
    excerptLines width ⟨row, col⟩ row line =
      [gutter width row row ++ line, List.replicate (width + 5 + col) ' ' ++ ['^']] := by
  have hblanks : ((width : Int) + 5 + (col : Int)).toNat = width + 5 + col := by omega
  unfold excerptLines
  rw [← hblanks]
  exact if_pos rfl

/-- Rows other than that of the problem have one line each. -/
theorem flatMap_excerptLines {rows : List Nat} (hne : ∀ i ∈ rows, i ≠ row) :
    (rows.flatMap fun i => excerptLines width ⟨row, col⟩ i (source[i]?.getD [])) =
      rows.map fun i => gutter width row i ++ source[i]?.getD [] := by
  rw [List.map_eq_flatMap]
  exact List.flatMap_congr fun i hi => excerptLines_of_ne (hne i hi)

/-- The layout with gutters that are wide enough for the last number shows the lines of a window. -/
theorem shows_of_window_eq {above below : List Nat}
    (hwindow : window source.length row context = above ++ row :: below) :
    Layout.Shows ⟨above, below, gutter (numberWidth source.length row context) row,
      numberWidth source.length row context + 5⟩ source row context where
  ordered := by
    show (above ++ row :: below).Pairwise (· < ·)
    rw [← hwindow]
    exact pairwise_window source.length row context
  mem_iff i := by
    show i ∈ above ++ row :: below ↔ _
    rw [← hwindow]
    exact mem_window_iff_le
  length_eq i hi := by
    apply length_gutter
    rw [hwindow]
    exact hi
  marked_iff i _ := head?_gutter_iff
  numbered i _ := ⟨_, _, rfl⟩

/-- The lines around a row of a text are an excerpt, and the caret stands under the column. -/
theorem exists_layout (hrow : row < source.length) (col context : Nat) :
    ∃ l : Layout, l.Shows source row context ∧
      excerpt source ⟨row, col⟩ context = l.lines source row col := by
  have hmem : row ∈ window source.length row context :=
    mem_window_iff_le.2 ⟨hrow, Nat.le_add_right row context, Nat.le_add_right row context⟩
  obtain ⟨above, below, hwindow⟩ := List.append_of_mem hmem
  refine ⟨_, shows_of_window_eq hwindow, ?_⟩
  -- The rows grow, so the row of the problem is neither above nor below itself.
  have hordered := pairwise_window source.length row context
  rw [hwindow] at hordered
  obtain ⟨-, hbelow, habove⟩ := List.pairwise_append.1 hordered
  have hneAbove : ∀ i ∈ above, i ≠ row := fun i hi =>
    Nat.ne_of_lt (habove i hi row List.mem_cons_self)
  have hneBelow : ∀ i ∈ below, i ≠ row := fun i hi =>
    Nat.ne_of_gt (List.rel_of_pairwise_cons hbelow hi)
  -- The window is cut at that row, whose line is the one with the caret below it.
  rw [excerpt_eq_flatMap]
  dsimp only
  rw [hwindow, List.flatMap_append, List.flatMap_cons, flatMap_excerptLines hneAbove,
    flatMap_excerptLines hneBelow, excerptLines_self, ← List.append_assoc]
  rfl

/-! ## Reports -/

/-- A problem with the details that its kind needs, at a place on a row of a text, is reported
without a failure: the first line tells what it is, and behind that stands the excerpt of the text
around the place. -/
theorem report_shows_excerpt {d : Diagnostic} {text : String} (context : Nat)
    (hplace : d.position = ⟨row, col⟩)
    (hneeds : (d.kind.needs.all fun (key, need) => d.details.meets key need) = true)
    (hrow : row < (Analysis.linesOf text).length) :
    ∃ (header : String) (l : Layout), d.header = .ok header ∧
      l.Shows (Analysis.linesOf text) row context ∧
      d.report (some text) context =
        .ok (Text.block (header.toList :: l.lines (Analysis.linesOf text) row col)) ∧
      Checked.report d (some text) context =
        .ok (Text.block (header.toList :: l.lines (Analysis.linesOf text) row col)) := by
  obtain ⟨header, hheader⟩ := exists_header hneeds
  obtain ⟨l, hshows, hlines⟩ := exists_layout hrow col context
  have hinside : 0 ≤ d.position.row ∧
      d.position.row < ((Text.lines (Text.unifyNewlines text.toList)).length : Int) := by
    rw [hplace]
    exact ⟨Int.natCast_nonneg row, Int.ofNat_lt.2 hrow⟩
  have hexcerpt : excerpt (Text.lines (Text.unifyNewlines text.toList)) d.position context =
      l.lines (Analysis.linesOf text) row col := by
    rw [hplace]
    exact hlines
  refine ⟨header, l, hheader, hshows, ?_, ?_⟩
  · unfold report
    rw [hheader, ← hexcerpt]
    exact if_pos hinside
  · unfold Checked.report
    rw [hheader, ← hexcerpt]
    simp only [Except.mapError, Checked.ok_bind]
    rw [if_pos hinside, Checked.excerpt_eq]
    rfl

/-- A text of ten lines, with an empty one behind the last line feed. -/
def tenLines : String := "a\nb\nc\nd\ne\nf\ng\n+--+\n|\r\n+--+\n"

/-- A problem in its ninth line. -/
def openSide : Diagnostic := unclosedBox .right ⟨8, 3⟩ ⟨7, 0⟩

/-- The numbers of the lines shown have one digit and two. -/
theorem report_shows_excerpt_two_widths :
    openSide.position = ⟨(8 : Nat), (3 : Nat)⟩ ∧
    (openSide.kind.needs.all fun (key, need) => openSide.details.meets key need) = true ∧
    8 < (Analysis.linesOf tenLines).length ∧
    ∃ (header : String) (l : Layout),
      openSide.header = .ok header ∧
      l.Shows (Analysis.linesOf tenLines) 8 1 ∧
      openSide.report (some tenLines) 1 =
        .ok (Text.block (header.toList :: l.lines (Analysis.linesOf tenLines) 8 3)) := by
  have hplace : openSide.position = ⟨(8 : Nat), (3 : Nat)⟩ := rfl
  have hneeds : (openSide.kind.needs.all fun (key, need) =>
    openSide.details.meets key need) = true := rfl
  have hrow : 8 < (Analysis.linesOf tenLines).length := by decide
  obtain ⟨header, l, hheader, hshows, hreport, -⟩ := report_shows_excerpt 1 hplace hneeds hrow
  exact ⟨hplace, hneeds, hrow, header, l, hheader, hshows, hreport⟩

end Wireframe.Diagnostic
