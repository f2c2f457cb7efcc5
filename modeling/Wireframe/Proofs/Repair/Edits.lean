import Mathlib.Tactic.ByContra
import Wireframe.Proofs.Problems.Applies

/-!
# What the edits of the strategies do to a line

A strategy replaces one line, or two for edges that do not match, by a line that is put together
from parts of it. Moving a corner is done entry by entry; what comes out is the line with the corner
and the spaces next to it changed into dashes and the corner (`extendEdge_eq_some`).
-/

namespace Wireframe

namespace Text

variable {α : Type}

/-! ## Entries and slices -/

/-- A slice from the start takes the entries up to its end. -/
theorem slice_zero (xs : List α) (stop : Int) :
    slice xs 0 (some stop) = xs.take (clipOffset xs.length stop) := by
  have hstart : clipOffset xs.length 0 = 0 := by
    rw [clipOffset_of_nonneg (Int.le_refl 0)]
    exact Nat.zero_min _
  unfold slice
  dsimp only
  rw [hstart, List.drop_zero]

/-- A slice to the end leaves out the entries in front of its start. -/
theorem slice_none (xs : List α) (start : Int) :
    slice xs start none = xs.drop (clipOffset xs.length start) := by
  unfold slice
  dsimp only
  rw [List.take_length]

/-- An entry that is replaced, and the others as they were. -/
theorem getElem?_setEntry (xs : List α) (i j : Nat) (x : α) :
    (setEntry xs i x)[j]? = if j = i then xs[j]?.map fun _ => x else xs[j]? := by
  unfold setEntry offset?
  by_cases hi : (i : Int) < -xs.length ∨ (xs.length : Int) ≤ i
  · rw [if_pos hi]
    dsimp only
    split
    · next heq => rw [List.getElem?_eq_none (by omega), Option.map_none]
    · rfl
  · have hclip : clipOffset xs.length (i : Int) = i := by
      rw [clipOffset_of_nonneg (by omega)]
      omega
    rw [if_neg hi, hclip]
    dsimp only
    rw [List.getElem?_set]
    by_cases heq : j = i
    · have hlt : i < xs.length := by omega
      rw [if_pos heq.symm, if_pos hlt, if_pos heq, heq, List.getElem?_eq_getElem hlt]
      rfl
    · rw [if_neg (Ne.symm heq), if_neg heq]

/-- Entries that are replaced one after the other by the same entry, and the others as they were. -/
theorem getElem?_foldl_setEntry (cols : List Nat) (xs : List α) (j : Nat) (x : α) :
    ((cols.map fun i : Nat => (i : Int)).foldl (fun l i => setEntry l i x) xs)[j]? =
      if j ∈ cols then xs[j]?.map fun _ => x else xs[j]? := by
  induction cols generalizing xs with
  | nil => simp
  | cons i cols ih =>
    rw [List.map_cons, List.foldl_cons, ih, getElem?_setEntry]
    by_cases hi : j = i
    · by_cases hmem : j ∈ cols <;> simp [hi, Function.comp_def]
    · simp [hi]

end Text

namespace Repair.Strategy

open Text (charAt?)

/-! ## Lines -/

/-- The line of a row. -/
theorem line?_eq_some_iff {lines : List Line} {row : Int} {line : Line} :
    line? lines row = some line ↔ ∃ r : Nat, row = r ∧ lines[r]? = some line := by
  unfold line?
  constructor
  · intro h
    split at h
    · exact ⟨row.toNat, by omega, h⟩
    · simp at h
  · rintro ⟨r, rfl, hline⟩
    rw [if_pos (by omega), Int.toNat_natCast, hline]

/-- The characters of the line that was put in. -/
theorem charAt?_setLine {lines : List Line} {row : Nat} {old : Line} (h : lines[row]? = some old)
    (chars : Line) (col : Nat) : charAt? (setLine lines row chars) ⟨row, col⟩ = chars[col]? := by
  have hrow : row < lines.length := (List.getElem?_eq_some_iff.1 h).1
  refine Text.charAt?_of_line ?_ col
  unfold setLine
  rw [Int.toNat_natCast, List.getElem?_set_self hrow]

/-- The characters of the other lines stay. -/
theorem charAt?_setLine_of_ne {row other : Nat} (h : other ≠ row) (lines : List Line) (line : Line)
    (col : Nat) : charAt? (setLine lines row line) ⟨other, col⟩ = charAt? lines ⟨other, col⟩ := by
  have hline : (setLine lines row line)[other]? = lines[other]? := by
    unfold setLine
    rw [Int.toNat_natCast, List.getElem?_set_ne (Ne.symm h)]
  simp [charAt?, hline]

/-! ## Moved pieces and closed brackets -/

/-- An offset from the start, clipped at the end. -/
theorem clipOffset_natCast (n i : Nat) : Text.clipOffset n (i : Int) = min i n := by
  rw [Text.clipOffset_of_nonneg (by omega), Int.toNat_natCast]

/-- A piece of an edge is moved by putting spaces in front of it or by taking spaces away. -/
theorem movePipe_eq_some {chars moved : Line} {expected actual : Nat}
    (h : movePipe chars expected actual = some moved) :
    chars[actual]? = some '|' ∧
      ((actual < expected ∧ moved =
          chars.take actual ++ List.replicate (expected - actual) ' ' ++ chars.drop actual) ∨
        (expected < actual ∧ moved = chars.take expected ++ chars.drop actual ∧
          ∀ c ∈ (chars.take actual).drop expected, c = ' ')) := by
  unfold movePipe at h
  split at h
  · simp at h
  · next hpiece =>
    rw [not_or, not_not, Text.entry?_of_nonneg _ (by omega), Int.toNat_natCast] at hpiece
    obtain ⟨hlength, hpiece⟩ := hpiece
    have hactual : Text.clipOffset chars.length (actual : Int) = actual := by
      rw [clipOffset_natCast]
      omega
    refine ⟨hpiece, ?_⟩
    rw [Text.slice_none, hactual] at h
    split at h
    · next hlt =>
      have hwidth : ((expected : Int) - actual).toNat = expected - actual := by omega
      rw [Text.slice_zero, hactual, spaces, hwidth, Option.some.injEq] at h
      exact .inl ⟨by omega, h.symm⟩
    · split at h
      · next hlt =>
        have hexpected : Text.clipOffset chars.length (expected : Int) = expected := by
          rw [clipOffset_natCast]
          omega
        split at h
        · next hspaces =>
          rw [Text.slice_zero, hexpected, Option.some.injEq] at h
          unfold Text.slice at hspaces
          dsimp only at hspaces
          rw [hactual, hexpected] at hspaces
          exact .inr ⟨by omega, h.symm, fun c hc => by simpa using List.all_eq_true.1 hspaces c hc⟩
        · simp at h
      · simp at h

/-- A bracket is closed behind its content, where up to two spaces give way. -/
theorem closeBracket_eq_some {line closed content : Line} {col : Nat} (hcontent : content ≠ [])
    (h : closeBracket line col content = some closed) :
    col + content.length ≤ line.length ∧
      ∃ gap rest, line.drop (col + content.length) = gap ++ rest ∧ (∀ c ∈ gap, c = ' ') ∧
        closed = line.take (col + content.length) ++ [' ', ']'] ++ rest := by
  have hstop : (col : Int) + content.length = (col + content.length : Nat) := by omega
  have hpos : 0 < content.length := List.length_pos_iff.2 hcontent
  unfold closeBracket at h
  dsimp only at h
  rw [hstop] at h
  generalize hend : col + content.length = stop at h ⊢
  split at h
  · next hslice =>
    have hlength : stop ≤ line.length := by
      have hsame := congrArg List.length hslice
      unfold Text.slice at hsame
      dsimp only at hsame
      rw [clipOffset_natCast, clipOffset_natCast, List.length_drop, List.length_take] at hsame
      omega
    have hclip : Text.clipOffset line.length (stop : Int) = stop := by
      rw [clipOffset_natCast]
      omega
    rw [Text.slice_none, Text.slice_zero, hclip] at h
    refine ⟨hlength, (line.drop stop).take (min ((line.drop stop).takeWhile (· == ' ')).length 2),
      (line.drop stop).drop (min ((line.drop stop).takeWhile (· == ' ')).length 2),
      (List.take_append_drop _ _).symm, fun c hc => ?_, (Option.some.inj h).symm⟩
    -- What gives way is a part of the spaces behind the content.
    have htaken : (line.drop stop).take (min ((line.drop stop).takeWhile (· == ' ')).length 2) <+:
        (line.drop stop).takeWhile (· == ' ') := by
      refine List.prefix_of_prefix_length_le (List.take_prefix _ _) (List.takeWhile_prefix _) ?_
      rw [List.length_take]
      omega
    simpa using List.all_eq_true.1 (List.all_takeWhile) c (htaken.subset hc)
  · simp at h

/-! ## Moved corners -/

/-- The columns between a corner and its new place are those between the two columns, without the
old one. -/
theorem exists_gapColumns_eq (old new : Nat) :
    ∃ cols : List Nat, gapColumns old new = cols.map (fun i : Nat => (i : Int)) ∧
      ∀ i, i ∈ cols ↔ min old new ≤ i ∧ i ≤ max old new ∧ i ≠ old := by
  unfold gapColumns
  by_cases h : old < new
  · refine ⟨List.range' (old + 1) (new - old), ?_, fun i => ?_⟩
    · have hlength : ((new : Int) - old).toNat = new - old := by omega
      rw [if_pos (by omega), hlength, List.range'_eq_map_range, List.map_map]
      exact List.map_congr_left fun i _ => by simp
    · rw [List.mem_range'_1]
      omega
  · refine ⟨List.range' new (old - new), ?_, fun i => ?_⟩
    · have hlength : ((old : Int) - new).toNat = old - new := by omega
      rw [if_neg (by omega), hlength, List.range'_eq_map_range, List.map_map]
      exact List.map_congr_left fun i _ => by simp
    · rw [List.mem_range'_1]
      omega

/-- What a moved corner does to a line that is filled up with spaces: the corner stands in its new
column, dashes stand from the old column to the one before it, and all else stays. Where the dashes
and the new corner stand now there were spaces, but for the old corner. -/
theorem getElem?_extendEdge {line extended : Line} {old new : Nat}
    (h : extendEdge line old new = some extended) :
    (Text.padRight (max old new + 1) line)[old]? = some '+' ∧
      (∀ i, min old new ≤ i → i ≤ max old new → i ≠ old →
        (Text.padRight (max old new + 1) line)[i]? = some ' ') ∧
      ∀ i, extended[i]? =
        if i = new then some '+'
        else if min old new ≤ i ∧ i ≤ max old new then some '-'
        else (Text.padRight (max old new + 1) line)[i]? := by
  have hwidth : (max (old : Int) new + 1).toNat = max old new + 1 := by omega
  obtain ⟨cols, hcols, hmem⟩ := exists_gapColumns_eq old new
  unfold extendEdge at h
  dsimp only at h
  rw [hwidth, hcols] at h
  have hlength : max old new < (Text.padRight (max old new + 1) line).length := by
    rw [Text.length_padRight]
    omega
  generalize Text.padRight (max old new + 1) line = padded at h hlength ⊢
  split at h
  · simp at h
  · next hcorner =>
    split at h
    · simp at h
    · next hgap =>
      rw [not_not, Text.entry?_of_nonneg _ (by omega), Int.toNat_natCast] at hcorner
      have hspaces : ∀ i ∈ cols, padded[i]? = some ' ' := by
        intro i hi
        by_contra hne
        refine hgap (List.any_eq_true.2 ⟨(i : Int), List.mem_map_of_mem hi, ?_⟩)
        rw [Text.entry?_of_nonneg _ (by omega), Int.toNat_natCast]
        exact decide_eq_true hne
      refine ⟨hcorner, fun i h1 h2 h3 => hspaces i ((hmem i).2 ⟨h1, h2, h3⟩), fun i => ?_⟩
      rw [← Option.some.inj h, Text.getElem?_setEntry, Text.getElem?_setEntry,
        Text.getElem?_foldl_setEntry]
      by_cases hin : min old new ≤ i ∧ i ≤ max old new
      · -- Between the columns every entry was replaced, the old one last but for the new one.
        have hi : i < padded.length := by omega
        have hcol : i ∈ cols ↔ i ≠ old := by
          rw [hmem]
          omega
        rw [if_pos hin, List.getElem?_eq_getElem hi]
        by_cases hold : i = old
        · have hout : i ∉ cols := by
            rw [hcol, not_not]
            exact hold
          rw [if_pos hold, if_neg hout]
          split <;> rfl
        · rw [if_neg hold, if_pos (hcol.2 hold)]
          split <;> rfl
      · have hold : i ≠ old := by omega
        have hnew : i ≠ new := by omega
        have hcol : i ∉ cols := by
          rw [hmem]
          omega
        rw [if_neg hnew, if_neg hold, if_neg hcol, if_neg hnew, if_neg hin]

/-- A list that has the entries of a part in the middle and those of another list around it. -/
theorem eq_take_append_drop {xs ys mid : Line} {low n : Nat} (hn : mid.length = n)
    (hlow : low + n ≤ ys.length) (hmid : ∀ i, i < n → xs[low + i]? = mid[i]?)
    (houter : ∀ i, i < low ∨ low + n ≤ i → xs[i]? = ys[i]?) :
    xs = ys.take low ++ mid ++ ys.drop (low + n) := by
  subst hn
  have hbefore : (ys.take low).length = low := by
    rw [List.length_take]
    omega
  refine List.ext_getElem? fun i => ?_
  rcases Nat.lt_or_ge i (low + mid.length) with hlt | hge
  · rw [List.getElem?_append_left (by rw [List.length_append, hbefore]; exact hlt)]
    rcases Nat.lt_or_ge i low with hlt' | hge'
    · rw [List.getElem?_append_left (by omega), List.getElem?_take_of_lt hlt',
        houter i (.inl hlt')]
    · obtain ⟨j, rfl⟩ := Nat.exists_eq_add_of_le hge'
      rw [List.getElem?_append_right (by omega), hbefore, hmid j (by omega)]
      congr 1
      omega
  · rw [List.getElem?_append_right (by rw [List.length_append, hbefore]; exact hge),
      List.length_append, hbefore, List.getElem?_drop, houter i (.inr hge)]
    congr 1
    omega

/-- A moved corner in a line that is filled up with spaces: the corner and the spaces next to it, to
the right or to the left, become dashes and the corner. -/
theorem extendEdge_eq_some {line extended : Line} {old new : Nat}
    (h : extendEdge line old new = some extended) :
    ∃ before after k,
      (new = old + k ∧ before.length = old ∧
        Text.padRight (max old new + 1) line = before ++ ('+' :: List.replicate k ' ') ++ after ∧
        extended = before ++ (List.replicate k '-' ++ ['+']) ++ after) ∨
      (old = new + k ∧ before.length = new ∧
        Text.padRight (max old new + 1) line = before ++ (List.replicate k ' ' ++ ['+']) ++ after ∧
        extended = before ++ ('+' :: List.replicate k '-') ++ after) := by
  obtain ⟨hcorner, hspaces, hextended⟩ := getElem?_extendEdge h
  have hlength : max old new < (Text.padRight (max old new + 1) line).length := by
    rw [Text.length_padRight]
    omega
  generalize Text.padRight (max old new + 1) line = padded at hcorner hspaces hextended hlength ⊢
  have hdashes : ∀ k i, i < k → (List.replicate k '-')[i]? = some '-' := fun k i hi => by
    rw [List.getElem?_replicate, if_pos hi]
  have hblanks : ∀ k i, i < k → (List.replicate k ' ')[i]? = some ' ' := fun k i hi => by
    rw [List.getElem?_replicate, if_pos hi]
  rcases Nat.le_total old new with hle | hge
  · obtain ⟨k, rfl⟩ := Nat.exists_eq_add_of_le hle
    refine ⟨padded.take old, padded.drop (old + (k + 1)), k, .inl ⟨rfl, ?_, ?_, ?_⟩⟩
    · rw [List.length_take]
      omega
    · refine eq_take_append_drop (by simp) (by omega) (fun i hi => ?_) (fun _ _ => rfl)
      cases i with
      | zero => exact hcorner
      | succ i =>
        rw [List.getElem?_cons_succ, hblanks k i (by omega)]
        exact hspaces _ (by omega) (by omega) (by omega)
    · refine eq_take_append_drop (by simp) (by omega) (fun i hi => ?_) (fun i hi => ?_)
      · rw [hextended]
        rcases Nat.lt_or_ge i k with hlt | hge
        · rw [if_neg (by omega), if_pos (by omega),
            List.getElem?_append_left (by simpa using hlt), hdashes k i hlt]
        · obtain rfl : i = k := by omega
          rw [if_pos rfl, List.getElem?_append_right (by simp)]
          simp
      · rw [hextended, if_neg (by omega), if_neg (by omega)]
  · obtain ⟨k, rfl⟩ := Nat.exists_eq_add_of_le hge
    refine ⟨padded.take new, padded.drop (new + (k + 1)), k, .inr ⟨rfl, ?_, ?_, ?_⟩⟩
    · rw [List.length_take]
      omega
    · refine eq_take_append_drop (by simp) (by omega) (fun i hi => ?_) (fun _ _ => rfl)
      rcases Nat.lt_or_ge i k with hlt | hge
      · rw [List.getElem?_append_left (by simpa using hlt), hblanks k i hlt]
        exact hspaces _ (by omega) (by omega) (by omega)
      · obtain rfl : i = k := by omega
        rw [hcorner, List.getElem?_append_right (by simp)]
        simp
    · refine eq_take_append_drop (by simp) (by omega) (fun i hi => ?_) (fun i hi => ?_)
      · rw [hextended]
        cases i with
        | zero => rw [if_pos (by omega), List.getElem?_cons_zero]
        | succ i =>
          rw [if_neg (by omega), if_pos (by omega), List.getElem?_cons_succ,
            hdashes k i (by omega)]
      · rw [hextended, if_neg (by omega), if_neg (by omega)]

/-! ## Edits of problems that were found -/

/-- A number counts as itself. -/
@[simp] theorem number?_number (n : Int) : (Detail.number n).number? = some n := rfl

/-- Tabs are expanded on the line of the problem. -/
theorem exists_of_fixTab {width : Int} {lines : List Line} {d : Diagnostic} {e : Edit}
    (h : fixTab width lines d = some e) :
    ∃ (row : Nat) (line : Line), d.position.row = row ∧ lines[row]? = some line ∧ '\t' ∈ line ∧
      e.lines = setLine lines row (expandTabs width line) := by
  unfold fixTab at h
  obtain ⟨line, hline, h⟩ := Option.bind_eq_some_iff.1 h
  obtain ⟨row, hrow, hline⟩ := line?_eq_some_iff.1 hline
  split at h
  · next htab =>
    rw [← Option.some.inj h, hrow]
    exact ⟨row, line, rfl, hline, htab, rfl⟩
  · simp at h

/-- A misplaced piece of an edge is moved on its line. -/
theorem exists_of_fixPipe {lines : List Line} {p : Position} {expected actual : Int} {e : Edit}
    (h : fixPipe lines (.misalignedPipe p expected actual) = .ok (some e)) :
    ∃ (row : Nat) (line moved : Line), p.row = row ∧ lines[row]? = some line ∧
      movePipe line expected actual = some moved ∧ e.lines = setLine lines row moved := by
  unfold fixPipe at h
  have hexpected : (Diagnostic.misalignedPipe p expected actual).details.get "expected_col" =
      .ok (.number expected) := rfl
  have hactual : (Diagnostic.misalignedPipe p expected actual).details.get "actual_col" =
      .ok (.number actual) := rfl
  rw [hexpected, hactual] at h
  obtain ⟨line, hline, h⟩ := Option.bind_eq_some_iff.1 (Except.ok.inj h)
  simp only [number?_number, Option.bind_eq_bind, Option.bind_some] at h
  obtain ⟨moved, hmoved, h⟩ := Option.bind_eq_some_iff.1 h
  obtain ⟨row, hrow, hline⟩ := line?_eq_some_iff.1 hline
  rw [← Option.some.inj h, hrow]
  exact ⟨row, line, moved, hrow, hline, hmoved, rfl⟩

/-- A bracket is closed on its line. -/
theorem exists_of_fixBracket {lines : List Line} {p : Position} {content : Line} {e : Edit}
    (h : fixBracket lines (.syntaxError .unclosedBracket p (String.ofList content)) =
      .ok (some e)) :
    ∃ (row : Nat) (line closed : Line), p.row = row ∧ lines[row]? = some line ∧
      closeBracket line p.col content = some closed ∧ e.lines = setLine lines row closed := by
  unfold fixBracket at h
  have hcontent : (Diagnostic.syntaxError .unclosedBracket p (String.ofList content)).details.get
      "content" = .ok (.text (String.ofList content)) := rfl
  have htext : (Detail.text (String.ofList content)).text? = some (String.ofList content) := rfl
  rw [hcontent] at h
  obtain ⟨line, hline, h⟩ := Option.bind_eq_some_iff.1 (Except.ok.inj h)
  simp only [htext, Option.bind_eq_bind, Option.bind_some, String.toList_ofList] at h
  obtain ⟨closed, hclosed, h⟩ := Option.bind_eq_some_iff.1 h
  obtain ⟨row, hrow, hline⟩ := line?_eq_some_iff.1 hline
  rw [← Option.some.inj h, hrow]
  exact ⟨row, line, closed, hrow, hline, hclosed, rfl⟩

/-- The columns of two corners, unless they agree. -/
def differing (top bottom : Int) : Option (Int × Int) :=
  if top = bottom then none else some (top, bottom)

/-- Columns that differ are the given ones. -/
theorem differing_eq_some {top bottom : Int} {t b : Int} (h : differing top bottom = some (t, b)) :
    t = top ∧ b = bottom ∧ top ≠ bottom := by
  unfold differing at h
  split at h
  · simp at h
  · next hne =>
    rw [Option.some.injEq, Prod.mk.injEq] at h
    exact ⟨h.1.symm, h.2.symm, hne⟩

/-- Numbers are compared as columns. -/
theorem columns?_number (top bottom : Int) :
    Corners.columns? (.number top) (.number bottom) = some (differing top bottom) := by
  have hsame : (Detail.number top).same (.number bottom) = decide (top = bottom) := by
    by_cases h : top = bottom <;>
      simp [Detail.number, Detail.same, Scalar.same, Scalar.numeric?, h]
  unfold Corners.columns? differing
  rw [hsame]
  by_cases h : top = bottom
  · simp [h]
  · simp [h, Detail.number, Detail.number?, Scalar.numeric?]

/-- The corners of edges that do not match are told in numbers. -/
theorem ofDiagnostic_mismatchedWidth
    (top left right bottom bottomLeft bottomRight topWidth bottomWidth : Int) :
    Corners.ofDiagnostic (.mismatchedWidth ⟨top, left⟩ topWidth bottomWidth right bottom bottomLeft
      bottomRight) =
        .ok (some ⟨top, bottom, differing left bottomLeft, differing right bottomRight⟩) := by
  unfold Corners.ofDiagnostic
  have hright : (Diagnostic.mismatchedWidth ⟨top, left⟩ topWidth bottomWidth right bottom
      bottomLeft bottomRight).details.get "top_right_col" = .ok (.number right) := rfl
  have hrow : (Diagnostic.mismatchedWidth ⟨top, left⟩ topWidth bottomWidth right bottom
      bottomLeft bottomRight).details.get "bottom_row" = .ok (.number bottom) := rfl
  have hbottomLeft : (Diagnostic.mismatchedWidth ⟨top, left⟩ topWidth bottomWidth right bottom
      bottomLeft bottomRight).details.get "bottom_left_col" = .ok (.number bottomLeft) := rfl
  have hbottomRight : (Diagnostic.mismatchedWidth ⟨top, left⟩ topWidth bottomWidth right bottom
      bottomLeft bottomRight).details.get "bottom_right_col" = .ok (.number bottomRight) := rfl
  have hposition : (Diagnostic.mismatchedWidth ⟨top, left⟩ topWidth bottomWidth right bottom
      bottomLeft bottomRight).position = ⟨top, left⟩ := rfl
  rw [hright, hrow, hbottomLeft, hbottomRight, hposition]
  simp only [bind, Except.bind, pure, Except.pure, number?_number, columns?_number,
    Option.bind_some]

/-- Edges that do not match are aligned, if they can be, and what was done is described. -/
theorem fixWidth_mismatchedWidth (lines : List Line)
    (top left right bottom bottomLeft bottomRight topWidth bottomWidth : Int) :
    fixWidth lines (.mismatchedWidth ⟨top, left⟩ topWidth bottomWidth right bottom bottomLeft
      bottomRight) =
        .ok ((Corners.align
          ⟨top, bottom, differing left bottomLeft, differing right bottomRight⟩ lines).bind
            fun aligned => (widthDescription top (.number topWidth) (.number bottomWidth)).map
              fun said => ⟨aligned, said⟩) := by
  have hbottom : (Diagnostic.mismatchedWidth ⟨top, left⟩ topWidth bottomWidth right bottom
      bottomLeft bottomRight).details.get "bottom_width" = .ok (.number bottomWidth) := rfl
  have htop : (Diagnostic.mismatchedWidth ⟨top, left⟩ topWidth bottomWidth right bottom
      bottomLeft bottomRight).details.get "top_width" = .ok (.number topWidth) := rfl
  have hposition : (Diagnostic.mismatchedWidth ⟨top, left⟩ topWidth bottomWidth right bottom
      bottomLeft bottomRight).position = ⟨top, left⟩ := rfl
  unfold fixWidth
  rw [ofDiagnostic_mismatchedWidth]
  cases halign : Corners.align
    ⟨top, bottom, differing left bottomLeft, differing right bottomRight⟩ lines with
  | none => simp [bind, Except.bind, pure, Except.pure, halign]
  | some aligned =>
    simp only [bind, Except.bind, pure, Except.pure, Option.bind_some, halign, hbottom, htop,
      hposition]

/-- Edges that do not match are aligned. -/
theorem exists_of_fixWidth {lines : List Line}
    {top left right bottom bottomLeft bottomRight topWidth bottomWidth : Int} {e : Edit}
    (h : fixWidth lines (.mismatchedWidth ⟨top, left⟩ topWidth bottomWidth right bottom bottomLeft
      bottomRight) = .ok (some e)) :
    Corners.align ⟨top, bottom, differing left bottomLeft, differing right bottomRight⟩ lines =
      some e.lines := by
  rw [fixWidth_mismatchedWidth] at h
  obtain ⟨aligned, halign, h⟩ := Option.bind_eq_some_iff.1 (Except.ok.inj h)
  obtain ⟨said, -, rfl⟩ := Option.map_eq_some_iff.1 h
  exact halign

/-- A corner is moved on its line. -/
theorem exists_of_extendRow {lines extended : List Line} {row old new : Int}
    (h : extendRow lines row old new = some extended) :
    ∃ (r : Nat) (line moved : Line), row = r ∧ lines[r]? = some line ∧
      extendEdge line old new = some moved ∧ extended = setLine lines r moved := by
  unfold extendRow at h
  obtain ⟨line, hline, h⟩ := Option.bind_eq_some_iff.1 h
  obtain ⟨moved, hmoved, h⟩ := Option.bind_eq_some_iff.1 h
  obtain ⟨r, rfl, hline⟩ := line?_eq_some_iff.1 hline
  exact ⟨r, line, moved, rfl, hline, hmoved, (Option.some.inj h).symm⟩

namespace Corners

variable {c : Corners} {lines aligned : List Line}

/-- Corners that differ on one side are aligned by moving one of them to the column of the other;
corners that agree stay. -/
inductive Aligns (topRow bottomRow : Int) : Option (Int × Int) → List Line → List Line → Prop where
  /-- The corners agree. -/
  | agree (lines : List Line) : Aligns topRow bottomRow none lines lines
  /-- The top corner was moved. -/
  | top (lines aligned : List Line) (top bottom : Int)
    (h : extendRow lines topRow top bottom = some aligned) :
    Aligns topRow bottomRow (some (top, bottom)) lines aligned
  /-- The bottom corner was moved. -/
  | bottom (lines aligned : List Line) (top bottom : Int)
    (h : extendRow lines bottomRow bottom top = some aligned) :
    Aligns topRow bottomRow (some (top, bottom)) lines aligned

/-- Two corners either agree, and nothing is changed, or one of them is moved to the column of the
other. -/
theorem Aligns.eq_or_extendRow {topRow bottomRow top bottom : Int}
    (h : Aligns topRow bottomRow (differing top bottom) lines aligned) :
    (differing top bottom = none ∧ aligned = lines) ∨
      top ≠ bottom ∧ (extendRow lines topRow top bottom = some aligned ∨
        extendRow lines bottomRow bottom top = some aligned) := by
  generalize hsides : differing top bottom = sides at h
  cases h with
  | agree lines => exact .inl ⟨rfl, rfl⟩
  | top _ _ t b h =>
    obtain ⟨rfl, rfl, hne⟩ := differing_eq_some hsides
    exact .inr ⟨hne, .inl h⟩
  | bottom _ _ t b h =>
    obtain ⟨rfl, rfl, hne⟩ := differing_eq_some hsides
    exact .inr ⟨hne, .inr h⟩

/-- The left corners are aligned. -/
theorem aligns_of_alignLeft (h : c.alignLeft lines = some aligned) :
    Aligns c.topRow c.bottomRow c.left lines aligned := by
  unfold alignLeft at h
  split at h
  · next hnone =>
    rw [hnone, ← Option.some.inj h]
    exact .agree lines
  · next top bottom hsome =>
    rw [hsome]
    split at h
    · exact .bottom _ _ _ _ h
    · exact .top _ _ _ _ h

/-- The right corners are aligned. -/
theorem aligns_of_alignRight (h : c.alignRight lines = some aligned) :
    Aligns c.topRow c.bottomRow c.right lines aligned := by
  unfold alignRight at h
  split at h
  · next hnone =>
    rw [hnone, ← Option.some.inj h]
    exact .agree lines
  · next top bottom hsome =>
    rw [hsome]
    split at h
    · exact .bottom _ _ _ _ h
    · exact .top _ _ _ _ h

/-- Corners of which some differ are aligned on the left and then on the right. -/
theorem exists_of_align (h : c.align lines = some aligned) :
    (c.left ≠ none ∨ c.right ≠ none) ∧ ∃ half, Aligns c.topRow c.bottomRow c.left lines half ∧
      Aligns c.topRow c.bottomRow c.right half aligned := by
  unfold align at h
  split at h
  · simp at h
  · split at h
    · simp at h
    · next hdiffer =>
      obtain ⟨half, hleft, hright⟩ := Option.bind_eq_some_iff.1 h
      rw [not_and_or] at hdiffer
      exact ⟨hdiffer, half, aligns_of_alignLeft hleft, aligns_of_alignRight hright⟩

end Corners

/-! ## Repaired lines -/

/-- The lines of a text after a problem that applies to them was repaired by one of the strategies,
by kinds of problems. -/
inductive Repaired (strategies : List Strategy) (lines : List Line) :
    Diagnostic → List Line → Prop where
  /-- The tabs of a line were expanded. -/
  | tab (row : Nat) (col width : Int) (snippet : String) (line : Line)
    (hwidth : .tab width ∈ strategies) (hline : lines[row]? = some line) (htab : '\t' ∈ line) :
    Repaired strategies lines (.unusualSpacing ⟨row, col⟩ snippet)
      (setLine lines row (expandTabs width line))
  /-- A piece of a vertical edge was moved. -/
  | pipe (row expected actual : Nat) (line moved : Line) (hline : lines[row]? = some line)
    (hmoved : movePipe line expected actual = some moved) :
    Repaired strategies lines (.misalignedPipe ⟨row, actual⟩ expected actual)
      (setLine lines row moved)
  /-- A bracket was closed in front of an edge. -/
  | bracket (row col edge : Nat) (content chars closed : Line) (hcontent : content ≠ [])
    (hbehind : col + content.length ≤ edge) (hedge : chars[edge]? = some '|')
    (hline : lines[row]? = some chars) (hclosed : closeBracket chars col content = some closed) :
    Repaired strategies lines (.syntaxError .unclosedBracket ⟨row, col⟩ (String.ofList content))
      (setLine lines row closed)
  /-- Two edges were aligned. -/
  | width (top left right bottom bottomLeft bottomRight : Nat) (topWidth bottomWidth : Int)
    (aligned : List Line)
    (haligned : Corners.align
      ⟨top, bottom, differing left bottomLeft, differing right bottomRight⟩ lines = some aligned) :
    Repaired strategies lines
      (.mismatchedWidth ⟨top, left⟩ topWidth bottomWidth right bottom bottomLeft bottomRight)
      aligned

/-- A strategy that edits lines for a problem of its kind that applies to them repairs it so. -/
theorem repaired_of_edit {strategies : List Strategy} {strategy : Strategy} {lines : List Line}
    {d : Diagnostic} {e : Edit} (hmem : strategy ∈ strategies) (happlies : d.Applies lines)
    (hkind : strategy.kind = d.kind) (h : strategy.edit lines d = .ok (some e)) :
    Repaired strategies lines d e.lines := by
  have hplace : ∀ {p : Position} {c : Char}, charAt? lines p = some c →
      ∃ row col : Nat, p.row = row ∧ p.col = col := by
    intro p c hc
    obtain ⟨row, col, -, rfl, -, -⟩ := Text.charAt?_eq_some_iff.1 hc
    exact ⟨row, col, rfl, rfl⟩
  cases happlies with
  | tab row col tabCol snippet htab =>
    cases strategy with
    | tab columns =>
      obtain ⟨r, line, hr, hline, hthere, he⟩ := exists_of_fixTab (Except.ok.inj h)
      obtain rfl : row = r := hr
      rw [he]
      exact .tab r col columns snippet line hmem hline hthere
    | _ => cases hkind
  | pipe row expected actual hpiece hmissing hexpected =>
    cases strategy with
    | pipe =>
      obtain ⟨r, line, moved, hr, hline, hmoved, he⟩ := exists_of_fixPipe h
      obtain rfl : row = r := hr
      obtain ⟨-, a, -, rfl⟩ := hplace hpiece
      obtain ⟨x, rfl⟩ := Int.eq_ofNat_of_zero_le hexpected
      rw [he]
      exact .pipe r x a line moved hline hmoved
    | _ => cases hkind
  | bracket row col content hcontent hedge hopen =>
    cases strategy with
    | bracket =>
      obtain ⟨r, line, closed, hr, hline, hclosed, he⟩ := exists_of_fixBracket h
      obtain rfl : row = r := Int.ofNat.inj hr
      obtain ⟨edge, hbehind, hpipe⟩ := hedge
      rw [Text.charAt?_of_line hline] at hpipe
      rw [he]
      exact .bracket row col edge content line closed hcontent hbehind hpipe hline hclosed
    | _ => cases hkind
  | width top left right bottom bottomLeft bottomRight topWidth bottomWidth h1 h2 h3 h4 =>
    cases strategy with
    | width =>
      obtain ⟨t, l, ht, hl⟩ := hplace h1
      obtain ⟨-, r, -, hr⟩ := hplace h2
      obtain ⟨b, bl, hb, hbl⟩ := hplace h3
      obtain ⟨-, br, -, hbr⟩ := hplace h4
      dsimp only at ht hl hr hb hbl hbr
      subst ht hl hr hb hbl hbr
      exact .width t l r b bl br topWidth bottomWidth e.lines (exists_of_fixWidth h)
    | _ => cases hkind
  | other _ hother =>
    rw [← hkind] at hother
    cases strategy <;> simp [Strategy.kind, Diagnostic.Kind.repairable] at hother

end Repair.Strategy

end Wireframe
