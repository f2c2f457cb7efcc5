import Mathlib.Data.List.Basic
import Mathlib.Order.Basic
import Wireframe.Difference
import Wireframe.Proofs.Blocks

/-!
# What counts as a difference

Two texts are compared row by row, and a row that a text does not have counts as empty there
(`lineAt`). So a line that only one of the texts has is a difference unless it is empty
(`mem_changedRows_of_onlyIn`), and no difference at all is found exactly when the texts are equal up
to line feeds at the end of one of them (`text_eq_unchanged_iff`). Within a line a missing character
is told from every character, so lines that differ do so in some column (`differingColumns_ne_nil`).
-/

namespace Wireframe

/-! ## Lists side by side -/

section PairUp

variable {α : Type} {fill : α}

/-- As many pairs are made as the longer list has entries. -/
theorem length_pairUp (fill : α) (as bs : List α) :
    (pairUp fill as bs).length = max as.length bs.length := by
  fun_induction pairUp fill as bs with
  | case1 => rfl
  | case2 a as ih =>
    rw [List.length_cons, ih, List.length_cons, List.length_nil]
    omega
  | case3 b bs ih =>
    rw [List.length_cons, ih, List.length_cons, List.length_nil]
    omega
  | case4 a as b bs ih =>
    rw [List.length_cons, ih, List.length_cons, List.length_cons]
    omega

/-- Each pair holds the entries of both lists at its place. -/
theorem getElem?_pairUp (fill : α) (as bs : List α) {i : Nat}
    (hi : i < max as.length bs.length) :
    (pairUp fill as bs)[i]? = some (as[i]?.getD fill, bs[i]?.getD fill) := by
  fun_induction pairUp fill as bs generalizing i with
  | case1 => exact absurd hi (Nat.not_lt_zero i)
  | case2 a as ih =>
    cases i with
    | zero => rfl
    | succ i =>
      simp only [List.length_cons, List.length_nil] at hi ih
      exact ih (by omega)
  | case3 b bs ih =>
    cases i with
    | zero => rfl
    | succ i =>
      simp only [List.length_cons, List.length_nil] at hi ih
      exact ih (by omega)
  | case4 a as b bs ih =>
    cases i with
    | zero => rfl
    | succ i =>
      simp only [List.length_cons] at hi
      exact ih (by omega)

/-- The places of a pair of different entries are those where the lists differ, what is missing in
one of them filled up. Behind both lists there is no difference. -/
theorem mem_unequal_pairUp_iff [DecidableEq α] (fill : α) (as bs : List α) {i : Nat} :
    i ∈ ((List.range (pairUp fill as bs).length).filter fun i =>
        decide ((pairUp fill as bs)[i]?.any fun (a, b) => a ≠ b)) ↔
      as[i]?.getD fill ≠ bs[i]?.getD fill := by
  rw [List.mem_filter, List.mem_range, length_pairUp]
  by_cases hi : i < max as.length bs.length
  · rw [getElem?_pairUp fill as bs hi]
    simp [hi]
  · have has : as[i]? = none := List.getElem?_eq_none (by omega)
    have hbs : bs[i]? = none := List.getElem?_eq_none (by omega)
    simp [hi, has, hbs]

/-- Filling up a list changes none of its entries, what is missing filled up. -/
theorem getD_append_replicate (fill : α) (as : List α) (k i : Nat) :
    (as ++ List.replicate k fill)[i]?.getD fill = as[i]?.getD fill := by
  by_cases hi : i < as.length
  · rw [List.getElem?_append_left hi]
  · rw [List.getElem?_append_right (by omega), List.getElem?_replicate,
      List.getElem?_eq_none (l := as) (by omega)]
    split
    · rfl
    · rfl

/-- A list with the same entries as one that is not longer, what is missing filled up, is that one
filled up. -/
theorem eq_append_replicate {as bs : List α} (hlength : as.length ≤ bs.length)
    (h : ∀ i : Nat, as[i]?.getD fill = bs[i]?.getD fill) :
    bs = as ++ List.replicate (bs.length - as.length) fill := by
  have hsome : ∀ {xs : List α} {i : Nat}, i < xs.length → xs[i]? = some (xs[i]?.getD fill) := by
    intro xs i hi
    rw [List.getElem?_eq_getElem hi]
    rfl
  have hfilled : (as ++ List.replicate (bs.length - as.length) fill).length = bs.length := by
    rw [List.length_append, List.length_replicate]
    omega
  apply List.ext_getElem?
  intro i
  by_cases hi : i < bs.length
  · calc bs[i]? = some (bs[i]?.getD fill) := hsome hi
      _ = some (as[i]?.getD fill) := by rw [h i]
      _ = some ((as ++ List.replicate (bs.length - as.length) fill)[i]?.getD fill) := by
        rw [getD_append_replicate]
      _ = (as ++ List.replicate (bs.length - as.length) fill)[i]? :=
        (hsome (hfilled.symm ▸ hi)).symm
  · rw [List.getElem?_eq_none (by omega), List.getElem?_eq_none (by omega)]

end PairUp

/-! ## Columns -/

section Columns

variable {before after : Line} {c : Nat}

/-- Lines differ in a column if they have different characters there or only one of them has one. -/
theorem mem_differingColumns_iff : c ∈ differingColumns before after ↔ before[c]? ≠ after[c]? := by
  -- No character is nothing, so nothing can stand for a missing one.
  have hfill : ∀ chars : Line, (chars.map some)[c]?.getD none = chars[c]? := by
    intro chars
    rw [List.getElem?_map]
    cases chars[c]? with
    | none => rfl
    | some d => rfl
  rw [← hfill before, ← hfill after]
  exact mem_unequal_pairUp_iff none _ _

/-- The columns are listed from left to right. -/
theorem pairwise_differingColumns (before after : Line) :
    (differingColumns before after).Pairwise (· < ·) :=
  List.pairwise_lt_range.filter _

/-- Lines that differ do so in some column. -/
theorem differingColumns_ne_nil (h : before ≠ after) : differingColumns before after ≠ [] := by
  intro hnil
  apply h
  apply List.ext_getElem?
  intro c
  by_contra hc
  have hmem : c ∈ differingColumns before after := mem_differingColumns_iff.2 hc
  rw [hnil] at hmem
  exact List.not_mem_nil hmem

/-- No column stands behind the last one. -/
theorem le_getLast? {columns : List Nat} {last : Nat} (hordered : columns.Pairwise (· < ·))
    (hlast : columns.getLast? = some last) (hc : c ∈ columns) : c ≤ last := by
  obtain ⟨front, rfl⟩ := List.getLast?_eq_some_iff.1 hlast
  rcases List.mem_append.1 hc with hc | hc
  · exact Nat.le_of_lt ((List.pairwise_append.1 hordered).2.2 c hc last List.mem_cons_self)
  · exact Nat.le_of_eq (List.mem_singleton.1 hc)

end Columns

namespace Difference

/-! ## Rows -/

/-- What a text has in a row. A row behind its last line is empty. -/
def lineAt (text : String) (row : Nat) : Line := (Text.lines text.toList)[row]?.getD []

/-- The number of rows of the text that has more of them. -/
def rowCount (before after : String) : Nat :=
  max (Text.lines before.toList).length (Text.lines after.toList).length

variable {before after : String} {row : Nat}

/-- There is a pair of lines for each row. -/
theorem length_linePairs (before after : String) :
    (linePairs before after).length = rowCount before after := length_pairUp [] _ _

/-- A pair holds what the texts have in its row. -/
theorem getElem?_linePairs (h : row < rowCount before after) :
    (linePairs before after)[row]? = some (lineAt before row, lineAt after row) :=
  getElem?_pairUp [] _ _ h

/-- A row is a difference if the texts do not have the same in it. -/
theorem mem_changedRows_iff :
    row ∈ changedRows (linePairs before after) ↔ lineAt before row ≠ lineAt after row :=
  mem_unequal_pairUp_iff [] _ _

/-- Only the rows of the texts can be differences. -/
theorem lt_rowCount (h : lineAt before row ≠ lineAt after row) : row < rowCount before after := by
  rw [← mem_changedRows_iff] at h
  rw [← length_linePairs]
  exact List.mem_range.1 (List.mem_filter.1 h).1

/-- The line stands in a row of the first text, and the second one has no such row. -/
structure OnlyIn (text other : String) (row : Nat) (line : Line) : Prop where
  /-- The one text has the line. -/
  line : (Text.lines text.toList)[row]? = some line
  /-- The other text has ended before. -/
  missing : (Text.lines other.toList)[row]? = none

/-- In the row of a line that only one text has, the other one has nothing. -/
theorem OnlyIn.lineAt_eq {text other : String} {line : Line} (h : OnlyIn text other row line) :
    lineAt text row = line ∧ lineAt other row = [] := by
  unfold lineAt
  rw [h.line, h.missing]
  exact ⟨rfl, rfl⟩

/-- A line that only one of the texts has is a difference unless it is empty. -/
theorem mem_changedRows_of_onlyIn {line : Line}
    (h : OnlyIn before after row line ∨ OnlyIn after before row line) :
    row ∈ changedRows (linePairs before after) ↔ line ≠ [] := by
  rw [mem_changedRows_iff]
  rcases h with h | h
  · rw [h.lineAt_eq.1, h.lineAt_eq.2]
  · rw [h.lineAt_eq.1, h.lineAt_eq.2]
    exact ne_comm

/-! ## Texts without a difference -/

/-- The second text is the first one with line feeds behind it. -/
def LongerByFeeds (text longer : String) : Prop :=
  ∃ k, longer.toList = text.toList ++ List.replicate k '\n'

/-- Line feeds behind a text are so many empty lines behind its lines. -/
theorem lines_append_replicate (cs : List Char) (k : Nat) :
    Text.lines (cs ++ List.replicate k '\n') = Text.lines cs ++ List.replicate k [] := by
  induction k generalizing cs with
  | zero => rw [List.replicate_zero, List.replicate_zero, List.append_nil, List.append_nil]
  | succ k ih =>
    calc Text.lines (cs ++ List.replicate (k + 1) '\n')
        = Text.lines (cs ++ List.replicate k '\n' ++ '\n' :: []) := by
          rw [List.replicate_succ', List.append_assoc]
      _ = Text.lines (cs ++ List.replicate k '\n') ++ [[]] := Text.lines_append _ []
      _ = Text.lines cs ++ List.replicate (k + 1) [] := by
          rw [ih, List.append_assoc, List.replicate_succ']

/-- A text that has the same in every row and not fewer lines has line feeds behind the other. -/
theorem longerByFeeds_of_lineAt {text longer : String}
    (hlength : (Text.lines text.toList).length ≤ (Text.lines longer.toList).length)
    (h : ∀ row, lineAt text row = lineAt longer row) : LongerByFeeds text longer := by
  have hlines := eq_append_replicate hlength h
  generalize (Text.lines longer.toList).length - (Text.lines text.toList).length = k at hlines
  refine ⟨k, ?_⟩
  calc longer.toList = Text.unlines (Text.lines longer.toList) := (Text.unlines_lines _).symm
    _ = Text.unlines (Text.lines (text.toList ++ List.replicate k '\n')) := by
      rw [hlines, lines_append_replicate]
    _ = text.toList ++ List.replicate k '\n' := Text.unlines_lines _

/-- A text with line feeds behind it has the same in every row. -/
theorem LongerByFeeds.lineAt_eq {text longer : String} (h : LongerByFeeds text longer) (row : Nat) :
    lineAt text row = lineAt longer row := by
  obtain ⟨k, hk⟩ := h
  unfold lineAt
  rw [hk, lines_append_replicate, getD_append_replicate]

/-- No row is a difference exactly when one of the texts is the other one with line feeds behind
it. -/
theorem changedRows_eq_nil_iff :
    changedRows (linePairs before after) = [] ↔
      LongerByFeeds before after ∨ LongerByFeeds after before := by
  rw [List.eq_nil_iff_forall_not_mem]
  simp only [mem_changedRows_iff, not_not]
  constructor
  · intro hsame
    rcases Nat.le_total (Text.lines before.toList).length (Text.lines after.toList).length with
      hle | hle
    · exact .inl (longerByFeeds_of_lineAt hle hsame)
    · exact .inr (longerByFeeds_of_lineAt hle fun row => (hsame row).symm)
  · rintro (h | h) row
    · exact h.lineAt_eq row
    · exact (h.lineAt_eq row).symm

/-! ## What is reported -/

/-- The report on texts without a difference. -/
def unchangedReport : String := Text.block (heading ++ ["No differences found.".toList])

/-- The line that tells the number of differences. -/
def foundLine (before after : String) : Line :=
  ("Found " ++ Text.decimal (changedRows (linePairs before after)).length ++
    " differing line(s)").toList

/-- The lines behind the heading tell the differences if there are any. -/
theorem lines_of_changed (h : changedRows (linePairs before after) ≠ []) (context : Int)
    (notes : List (Int × List String)) :
    lines before after context notes = heading ++ [foundLine before after, []] ++
      body (linePairs before after) 0
        (shownRows (changedRows (linePairs before after)) (rowCount before after) context) ++
      noteLines notes := by
  rw [← length_linePairs]
  exact if_neg h

/-- Differences are never reported as none. -/
theorem block_heading_ne (rest : List Line) :
    Text.block (heading ++ foundLine before after :: rest) ≠ unchangedReport := by
  intro h
  have hchars : Text.unlines (heading ++ foundLine before after :: rest) =
      Text.unlines (heading ++ ["No differences found.".toList]) := by
    have htext := congrArg String.toList h
    unfold unchangedReport Text.block at htext
    rwa [String.toList_ofList, String.toList_ofList] at htext
  have htail : Text.unlines (foundLine before after :: rest) = "No differences found.".toList := by
    simpa [heading, Text.unlines] using hchars
  -- The first line behind the heading begins with another letter.
  obtain ⟨line, hline⟩ : ∃ line, foundLine before after = 'F' :: line := by
    simp [foundLine]
  rw [hline, Text.unlines_cons_char] at htail
  have hletter := congrArg List.head? htail
  rw [List.head?_cons] at hletter
  exact absurd hletter (by decide)

/-- No difference is reported exactly when no row is a difference. -/
theorem text_eq_unchangedReport_iff (context : Int) (notes : List (Int × List String)) :
    text before after context notes = unchangedReport ↔
      changedRows (linePairs before after) = [] := by
  unfold text
  constructor
  · intro htext
    by_contra hchanged
    rw [lines_of_changed hchanged, List.append_assoc, List.append_assoc] at htext
    exact block_heading_ne _ htext
  · intro hnone
    have hlines : lines before after context notes = heading ++ ["No differences found.".toList] :=
      if_pos hnone
    rw [hlines]
    rfl

/-- No difference of two texts is reported exactly when one of them is the other one with line feeds
behind it, however many lines are shown around a difference. A line that only one of the texts has
is counted among the differences exactly when it is not empty. -/
theorem text_eq_unchanged_iff (before after : String) (context : Int)
    (notes : List (Int × List String)) :
    (text before after context notes = unchangedReport ↔
      LongerByFeeds before after ∨ LongerByFeeds after before) ∧
    ∀ row line, OnlyIn before after row line ∨ OnlyIn after before row line →
      (row ∈ changedRows (linePairs before after) ↔ line ≠ []) :=
  ⟨(text_eq_unchangedReport_iff context notes).trans changedRows_eq_nil_iff,
    fun _ _ honly => mem_changedRows_of_onlyIn honly⟩

/-- Of two lines that only one text has, the empty one is not counted, and where there are only empty
ones no difference is reported. -/
theorem text_eq_unchanged_iff_more_lines :
    (OnlyIn "a" "a\n\nb" 1 [] ∨ OnlyIn "a\n\nb" "a" 1 []) ∧
    1 ∉ changedRows (linePairs "a" "a\n\nb") ∧
    (OnlyIn "a" "a\n\nb" 2 ['b'] ∨ OnlyIn "a\n\nb" "a" 2 ['b']) ∧
    2 ∈ changedRows (linePairs "a" "a\n\nb") ∧
    text "a\n\n" "a" 0 [] = unchangedReport := by
  obtain ⟨-, hcounted⟩ := text_eq_unchanged_iff "a" "a\n\nb" 2 []
  have hempty : OnlyIn "a\n\nb" "a" 1 [] := ⟨by decide, by decide⟩
  have hfilled : OnlyIn "a\n\nb" "a" 2 ['b'] := ⟨by decide, by decide⟩
  have hfeeds : LongerByFeeds "a" "a\n\n" := ⟨2, by decide⟩
  exact ⟨.inr hempty, fun hmem => (hcounted 1 [] (.inr hempty)).1 hmem rfl, .inr hfilled,
    (hcounted 2 ['b'] (.inr hfilled)).2 (by decide),
    (text_eq_unchanged_iff "a\n\n" "a" 0 []).1.2 (.inr hfeeds)⟩

/-- A line feed at the end of a text is a difference that is not reported. -/
theorem not_forall_text_eq_unchanged :
    ¬ ∀ (before after : String) (context : Int), 0 ≤ context →
      (text before after context [] = unchangedReport ↔ before = after) := by
  intro hnotices
  have hfeed : LongerByFeeds "a" "a\n" := ⟨1, by decide⟩
  have hreport : text "a" "a\n" 2 [] = unchangedReport :=
    (text_eq_unchangedReport_iff 2 []).2 (changedRows_eq_nil_iff.2 (.inl hfeed))
  exact absurd ((hnotices "a" "a\n" 2 (by decide)).1 hreport) (by decide)

end Difference

end Wireframe
