import Mathlib.Data.List.Sort
import Mathlib.Data.Nat.Find
import Wireframe.Proofs.Difference.Body

/-!
# Where the carets stand

In a row in which two texts differ, the old line is printed behind the number of the row
(`oldGutter`), the new one below it behind blanks and a sign (`newGutter`), and the carets below both
of them.
The carets stand under the characters of a line that differ if the line is printed as far to the
right as they are (`caretsUnder_iff`). What is in front of the new line is as wide as what is in
front of the carets, in every row. What is in front of the old one is as wide in the first 999 rows
only: a row number is padded to three digits, and a longer one moves the line to the right
(`length_oldGutter`). The main statement is `text_aligns_carets`, that the carets stand under the new
line in every row and under the old line in these; `not_forall_aligned` is about a text with a
difference in the row behind them.
-/

namespace Wireframe.Difference

/-! ## What is printed in front of a line -/

/-- What is printed in front of the old line of a row. -/
def oldGutter (row : Nat) : Line := rowNumber row ++ ": - |".toList

/-- What is printed in front of the new line of a row. -/
def newGutter : Line := "     + |".toList

/-- What is in front of the new line is as wide as what is in front of the carets. -/
theorem length_newGutter : newGutter.length = gutter := rfl

/-- What is in front of the old line is wider by the digits of the row number behind the third. -/
theorem length_oldGutter (row : Nat) :
    (oldGutter row).length = gutter + ((Text.digits (row + 1)).length - 3) := by
  have hmark : ": - |".toList.length = 5 := rfl
  unfold oldGutter rowNumber gutter
  rw [List.length_append, Text.length_padLeft, hmark]
  omega

/-- The number of a row has at most three digits in the first 999 rows. -/
theorem length_oldGutter_eq_iff {row : Nat} : (oldGutter row).length = gutter ↔ row < 999 := by
  have hdigits : (Text.digits (row + 1)).length ≤ 3 ↔ row + 1 < 1000 :=
    Text.length_digits_le_iff (by decide)
  rw [length_oldGutter]
  omega

/-! ## Carets under a line -/

/-- A caret stands under each character of a line that is printed behind `front` and in which the
lines `old` and `new` differ, and nowhere else. -/
def CaretsUnder (front marks old new : Line) : Prop :=
  ∀ k, marks[k]? = some '^' ↔ ∃ c, k = front.length + c ∧ old[c]? ≠ new[c]?

section CaretsUnder

variable {front front' marks old new : Line}

/-- Where the carets stand under two lines, none of them is further to the right than the other. -/
theorem CaretsUnder.length_le (h : CaretsUnder front marks old new)
    (h' : CaretsUnder front' marks old new) (hdiffer : old ≠ new) :
    front.length ≤ front'.length := by
  have hex : ∃ c : Nat, old[c]? ≠ new[c]? := by
    by_contra hnone
    simp only [ne_eq, not_exists, not_not] at hnone
    exact hdiffer (List.ext_getElem? hnone)
  -- The first caret, which stands under the first character that differs in both of them.
  have hfirst := (h' (front'.length + Nat.find hex)).2 ⟨Nat.find hex, rfl, Nat.find_spec hex⟩
  obtain ⟨c, heq, hc⟩ := (h (front'.length + Nat.find hex)).1 hfirst
  have hle : Nat.find hex ≤ c := Nat.find_min' hex hc
  omega

/-- If the carets stand under a line, they stand under those lines that are printed as far to the
right. -/
theorem caretsUnder_iff (h : CaretsUnder front marks old new) (hdiffer : old ≠ new) :
    CaretsUnder front' marks old new ↔ front'.length = front.length := by
  constructor
  · intro h'
    exact Nat.le_antisymm (h'.length_le h hdiffer) (h.length_le h' hdiffer)
  · intro hlength
    -- Nothing but the length of what is in front of the line counts.
    unfold CaretsUnder
    rw [hlength]
    exact h

end CaretsUnder

/-! ## Texts with one difference -/

variable {before after : String} {context : Int} {row : Nat}

/-- Where the texts differ in one row only, that row alone is shown without context. -/
theorem shownRows_of_only (honly : ∀ r, lineAt before r ≠ lineAt after r ↔ r = row) :
    changedRows (linePairs before after) = [row] ∧
      shownRows (changedRows (linePairs before after)) (rowCount before after) 0 = [row] := by
  have hone : [row].Pairwise (· < ·) := List.pairwise_singleton _ row
  constructor
  · refine (List.pairwise_lt_range.filter _).eq_of_mem_iff hone fun r => ?_
    rw [List.mem_singleton, ← honly r]
    exact mem_changedRows_iff
  · refine (pairwise_shownRows _ _ 0).eq_of_mem_iff hone fun r => ?_
    rw [mem_shownRows_iff, List.mem_singleton]
    constructor
    · rintro ⟨-, changed, hchanged, hle, hge⟩
      rw [honly] at hchanged
      omega
    · intro hr
      exact near_of_lineAt_ne (Int.le_refl 0) ((honly r).2 hr)

/-- A character behind empty lines. -/
def behindFeeds (count : Nat) (c : Char) : String :=
  String.ofList (List.replicate count '\n' ++ [c])

section BehindFeeds

variable {count : Nat} {c d : Char}

/-- The empty lines come first. -/
theorem lines_behindFeeds (hc : c ≠ '\n') :
    Text.lines (behindFeeds count c).toList = List.replicate count [] ++ [[c]] := by
  unfold behindFeeds
  rw [String.toList_ofList]
  induction count with
  | zero => exact Text.lines_of_not_mem [c] (by simpa using Ne.symm hc)
  | succ count ih =>
    rw [List.replicate_succ, List.cons_append, Text.lines_newline_cons, ih, List.replicate_succ,
      List.cons_append]

/-- The character is in the row behind them. -/
theorem lineAt_behindFeeds (hc : c ≠ '\n') (row : Nat) :
    lineAt (behindFeeds count c) row = if row = count then [c] else [] := by
  unfold lineAt
  rw [lines_behindFeeds hc]
  -- A row in front holds an empty line, and one further down counts as empty.
  rcases Nat.lt_trichotomy row count with hlt | rfl | hgt
  · rw [if_neg (Nat.ne_of_lt hlt), List.getElem?_append_left (by simpa using hlt),
      List.getElem?_replicate, if_pos hlt]
    rfl
  · simp
  · rw [if_neg (Nat.ne_of_gt hgt), List.getElem?_eq_none (by simp; omega)]
    rfl

/-- Different characters are the only difference. -/
theorem lineAt_behindFeeds_ne_iff (hc : c ≠ '\n') (hd : d ≠ '\n') (hne : c ≠ d) :
    lineAt (behindFeeds count c) row ≠ lineAt (behindFeeds count d) row ↔ row = count := by
  rw [lineAt_behindFeeds hc, lineAt_behindFeeds hd]
  split
  · next heq => simpa [heq] using hne
  · next hother => simp [hother]

/-- Without context, the empty lines are left out. -/
theorem lines_behindFeeds_ne (hcount : 0 < count) (hc : c ≠ '\n') (hd : d ≠ '\n') (hne : c ≠ d) :
    lines (behindFeeds count c) (behindFeeds count d) 0 [] =
      heading ++ ["Found 1 differing line(s)".toList, [], gap] ++ changeLines count [c] [d] := by
  have honly : ∀ row, lineAt (behindFeeds count c) row ≠ lineAt (behindFeeds count d) row ↔
      row = count :=
    fun row => lineAt_behindFeeds_ne_iff hc hd hne
  obtain ⟨hchanged, hshown⟩ := shownRows_of_only honly
  have hfound : foundLine (behindFeeds count c) (behindFeeds count d) =
      "Found 1 differing line(s)".toList := by
    unfold foundLine
    rw [hchanged, List.length_singleton]
    decide
  have htotal : rowCount (behindFeeds count c) (behindFeeds count d) = count + 1 := by
    unfold rowCount
    rw [lines_behindFeeds hc, lines_behindFeeds hd]
    simp
  have hpair : (linePairs (behindFeeds count c) (behindFeeds count d))[count]? =
      some ([c], [d]) := by
    rw [getElem?_linePairs (by omega), lineAt_behindFeeds hc, lineAt_behindFeeds hd, if_pos rfl,
      if_pos rfl]
  have hrow : rowLines count ([c], [d]) = changeLines count [c] [d] := if_neg (by simpa using hne)
  -- The row is not the first one, so a mark stands in front of it, and it is the last one.
  have hbody : body (linePairs (behindFeeds count c) (behindFeeds count d)) 0 [count] =
      [gap] ++ changeLines count [c] [d] := by
    rw [body, if_pos (Nat.ne_of_gt hcount), hpair, Option.map_some, Option.getD_some, hrow, body,
      length_linePairs, htotal, if_neg (Nat.lt_irrefl _), List.append_nil]
  rw [lines_of_changed (by simp [hchanged]), hshown, hfound, hbody, noteLines, List.append_nil]
  simp

end BehindFeeds

/-! ## Carets in a comparison -/

/-- A row in which the texts differ has its old line, its new line and the carets one below the
other. -/
theorem exists_marks (hcontext : 0 ≤ context) (notes : List (Int × List String))
    (hdiffer : lineAt before row ≠ lineAt after row) :
    ∃ marks, CaretsUnder newGutter marks (lineAt before row) (lineAt after row) ∧
      [oldGutter row ++ lineAt before row ++ ['|'], newGutter ++ lineAt after row ++ ['|'],
        marks] <:+: lines before after context notes := by
  have hchanged : changedRows (linePairs before after) ≠ [] :=
    List.ne_nil_of_mem (mem_changedRows_iff.2 hdiffer)
  obtain ⟨parts, hbody, hlists, hshown⟩ := listsRows_body before after context
  obtain ⟨shown, hmem⟩ := (hlists.rows row).2
    ⟨Nat.zero_le row, near_of_lineAt_ne hcontext hdiffer⟩
  -- The lines of the row stand together in the body, and this in the comparison.
  have hpart : shown <:+: parts.flatMap Part.lines :=
    List.infix_of_mem_flatten (List.mem_map_of_mem hmem)
  have hinfix : shown <:+: lines before after context notes := by
    rw [lines_of_changed hchanged, hbody]
    exact hpart.trans (List.infix_append _ _ _)
  cases hshown row shown hmem with
  | common hsame => exact absurd hsame hdiffer
  | @changed marks columns _ hcarets _ _ _ =>
    refine ⟨marks, hcarets, ?_⟩
    exact (List.prefix_append [_, _, marks] [_]).isInfix.trans hinfix

/-- The lines of a row in which two texts differ are printed one below the other, with carets under
the columns of the new line that differ. They stand under those of the old line too exactly in the
first 999 rows: the old line is moved to the right by each digit of the row number behind the third,
and neither the new line nor the carets are. -/
theorem text_aligns_carets (hcontext : 0 ≤ context) (notes : List (Int × List String))
    (hdiffer : lineAt before row ≠ lineAt after row) :
    ∃ ls marks, Checked.lines before after context notes = .ok ls ∧
      text before after context notes = Text.block ls ∧
      [oldGutter row ++ lineAt before row ++ ['|'], newGutter ++ lineAt after row ++ ['|'],
        marks] <:+: ls ∧
      newGutter.length = 8 ∧
      (oldGutter row).length = 8 + ((Text.digits (row + 1)).length - 3) ∧
      CaretsUnder newGutter marks (lineAt before row) (lineAt after row) ∧
      (CaretsUnder (oldGutter row) marks (lineAt before row) (lineAt after row) ↔ row < 999) := by
  obtain ⟨marks, hnew, hinfix⟩ := exists_marks hcontext notes hdiffer
  have hold : CaretsUnder (oldGutter row) marks (lineAt before row) (lineAt after row) ↔
      row < 999 := by
    rw [caretsUnder_iff hnew hdiffer, length_newGutter]
    exact length_oldGutter_eq_iff
  exact ⟨lines before after context notes, marks, Checked.lines_eq before after context notes, rfl,
    hinfix, length_newGutter, length_oldGutter row, hnew, hold⟩

/-- A difference in the first row, and one in the thousandth. -/
theorem text_aligns_carets_thousandth_row :
    (0 : Int) ≤ 0 ∧
    lineAt "| ab|" 0 ≠ lineAt "| ac|" 0 ∧
    (∃ ls marks, Checked.lines "| ab|" "| ac|" 0 [] = .ok ls ∧
      ["  1: - || ab||".toList, "     + || ac||".toList, marks] <:+: ls ∧
      CaretsUnder newGutter marks "| ab|".toList "| ac|".toList ∧
      CaretsUnder (oldGutter 0) marks "| ab|".toList "| ac|".toList) ∧
    lineAt (behindFeeds 999 'a') 999 ≠ lineAt (behindFeeds 999 'b') 999 ∧
    ∃ ls marks, Checked.lines (behindFeeds 999 'a') (behindFeeds 999 'b') 0 [] = .ok ls ∧
      ["1000: - |a|".toList, "     + |b|".toList, marks] <:+: ls ∧
      CaretsUnder newGutter marks ['a'] ['b'] ∧ ¬ CaretsUnder (oldGutter 999) marks ['a'] ['b'] := by
  have hfirst : lineAt "| ab|" 0 ≠ lineAt "| ac|" 0 := by decide
  have hlast : lineAt (behindFeeds 999 'a') 999 ≠ lineAt (behindFeeds 999 'b') 999 :=
    (lineAt_behindFeeds_ne_iff (by decide) (by decide) (by decide)).2 rfl
  refine ⟨Int.le_refl 0, hfirst, ?_, hlast, ?_⟩
  · obtain ⟨ls, marks, hlines, -, hinfix, -, -, hnew, hold⟩ :=
      text_aligns_carets (Int.le_refl 0) [] hfirst
    exact ⟨ls, marks, hlines, hinfix, hnew, hold.2 (by decide)⟩
  · obtain ⟨ls, marks, hlines, -, hinfix, -, -, hnew, hold⟩ :=
      text_aligns_carets (Int.le_refl 0) [] hlast
    rw [lineAt_behindFeeds (by decide), lineAt_behindFeeds (by decide), if_pos rfl, if_pos rfl]
      at hinfix hnew hold
    exact ⟨ls, marks, hlines, hinfix, hnew, fun h => absurd (hold.1 h) (by decide)⟩

/-- From the thousandth row on, the old line has more than eight characters in front of it. -/
theorem not_forall_aligned :
    ¬ ∀ (before after : String) (context : Int) (row : Nat), 0 ≤ context →
      lineAt before row ≠ lineAt after row →
      ∃ front front' marks : Line,
        [front ++ lineAt before row ++ ['|'], front' ++ lineAt after row ++ ['|'], marks] <:+:
          lines before after context [] ∧
        front.length = 8 ∧ front'.length = 8 ∧
        ∀ c, (lineAt before row)[c]? ≠ (lineAt after row)[c]? → marks[8 + c]? = some '^' := by
  intro haligned
  have hdiffer : lineAt (behindFeeds 999 'a') 999 ≠ lineAt (behindFeeds 999 'b') 999 :=
    (lineAt_behindFeeds_ne_iff (by decide) (by decide) (by decide)).2 rfl
  obtain ⟨front, front', marks, hinfix, hfront, -, -⟩ :=
    haligned (behindFeeds 999 'a') (behindFeeds 999 'b') 0 999 (Int.le_refl 0) hdiffer
  have hmem : front ++ ['a'] ++ ['|'] ∈ lines (behindFeeds 999 'a') (behindFeeds 999 'b') 0 [] := by
    refine hinfix.mem ?_
    rw [lineAt_behindFeeds (by decide), if_pos rfl]
    exact List.mem_cons_self
  -- The line with the old character has nine characters in front of it.
  have hcolumns : differingColumns ['a'] ['b'] = [0] := by
    unfold differingColumns
    simp only [List.map_cons, List.map_nil, pairUp]
    decide
  have hnone : ∀ line ∈ heading ++ ["Found 1 differing line(s)".toList, [], gap] ++
      changeLines 999 ['a'] ['b'], line.length = 10 → ¬ ['a', '|'] <:+ line := by
    unfold changeLines
    rw [hcolumns]
    decide
  rw [lines_behindFeeds_ne (by decide) (by decide) (by decide) (by decide)] at hmem
  refine hnone _ hmem ?_ ⟨front, ?_⟩
  · simp [hfront]
  · simp

end Wireframe.Difference
