import Wireframe.Proofs.Checked.Difference

/-!
# The rows that a comparison shows

The body of a comparison is a list of parts, each of which stands for rows of the texts: a row that
is shown, with its lines, or a stretch of rows that are left out, with one mark (`Part`). The parts
stand for the rows from the first to the last one; the rows shown are those near a difference, and
the stretches are as long as they can be (`ListsFrom`). Two stretches of that kind never share a row
(`IsGap.unique`), so each of them has its mark once. No difference is left out unless the context is
negative (`near_of_lineAt_ne`). What the lines of a row say is told by `RowShown`; the main statement
is `text_lists_rows`.
-/

namespace Wireframe.Difference

/-! ## Rows that are left out -/

section Gaps

variable {shown : Nat → Prop} {total first next first' next' : Nat}

/-- The rows from `first` up to the one before `next` are left out, and they are a whole stretch of
such rows: the rows around them, if there are any, are shown. -/
structure IsGap (shown : Nat → Prop) (total first next : Nat) : Prop where
  /-- There is a row in the stretch. -/
  lt : first < next
  /-- The stretch ends within the rows. -/
  le : next ≤ total
  /-- No row of the stretch is shown. -/
  hidden : ∀ row, first ≤ row → row < next → ¬ shown row
  /-- The row in front of the stretch is shown. -/
  left : ∀ row, row + 1 = first → shown row
  /-- The row behind the stretch is shown. -/
  right : next < total → shown next

/-- Of two stretches that share a row, neither begins before the other. -/
theorem IsGap.first_le (h : IsGap shown total first next) (h' : IsGap shown total first' next')
    (hmeet : first < next') : first ≤ first' := by
  by_contra hlt
  -- The row in front of the first stretch would lie in the second one.
  obtain ⟨row, rfl⟩ : ∃ row, first = row + 1 := ⟨first - 1, by omega⟩
  exact h'.hidden row (by omega) (by omega) (h.left row rfl)

/-- Of two stretches that share a row, neither ends behind the other. -/
theorem IsGap.next_le (h : IsGap shown total first next) (h' : IsGap shown total first' next')
    (hmeet : first < next') : next ≤ next' := by
  by_contra hlt
  have hle := h.le
  exact h.hidden next' (by omega) (by omega) (h'.right (by omega))

/-- Stretches that share a row are the same. -/
theorem IsGap.unique (h : IsGap shown total first next) (h' : IsGap shown total first' next')
    (hmeet : first < next') (hmeet' : first' < next) : first = first' ∧ next = next' := by
  constructor
  · exact Nat.le_antisymm (h.first_le h' hmeet) (h'.first_le h hmeet')
  · exact Nat.le_antisymm (h.next_le h' hmeet) (h'.next_le h hmeet')

end Gaps

/-! ## Parts -/

/-- A part of the body. -/
inductive Part where
  /-- A row that is shown, and the lines that show it. -/
  | row (row : Nat) (lines : List Line)
  /-- The rows from `first` up to the one before `next`, which are left out. -/
  | gap (first next : Nat)

namespace Part

/-- The first row that a part stands for. -/
def first : Part → Nat
  | .row r _ => r
  | .gap start _ => start

/-- The row behind those that a part stands for. -/
def next : Part → Nat
  | .row r _ => r + 1
  | .gap _ stop => stop

/-- The lines of a part. Rows that are left out have one mark. -/
def lines : Part → List Line
  | .row _ shown => shown
  | .gap _ _ => [Difference.gap]

end Part

/-- The parts list the rows from `start` on. -/
structure ListsFrom (shown : Nat → Prop) (total start : Nat) (parts : List Part) : Prop where
  /-- Each part ends before the next one begins. -/
  ordered : parts.Pairwise fun a b => a.next ≤ b.first
  /-- The rows in front are not listed. -/
  start_le : ∀ part ∈ parts, start ≤ part.first
  /-- The rows that are shown have a part. -/
  rows : ∀ row, (∃ lines, Part.row row lines ∈ parts) ↔ start ≤ row ∧ shown row
  /-- The whole stretches of rows that are left out have a part. -/
  gaps : ∀ first next, Part.gap first next ∈ parts ↔ start ≤ first ∧ IsGap shown total first next

section Listing

variable {shown : Nat → Prop} {total first next row : Nat} {parts : List Part}

/-- Nothing is listed behind the last row. -/
theorem ListsFrom.nil (htotal : ∀ row, shown row → row < total) :
    ListsFrom shown total total [] where
  ordered := .nil
  start_le := by simp
  rows := by
    intro row
    constructor
    · rintro ⟨lines, hmem⟩
      exact absurd hmem List.not_mem_nil
    · rintro ⟨hle, hshown⟩
      exact absurd (htotal row hshown) (by omega)
  gaps := by
    intro first next
    constructor
    · exact fun hmem => absurd hmem List.not_mem_nil
    · rintro ⟨hle, hgap⟩
      have hlt := hgap.lt
      exact absurd hgap.le (by omega)

/-- Where a part is put in front of those behind it, the list begins with that part. -/
theorem ListsFrom.first_le {part : Part} (h : ListsFrom shown total next parts)
    (hle : part.first ≤ next) : ∀ p ∈ part :: parts, part.first ≤ p.first := by
  intro p hp
  rcases List.mem_cons.1 hp with rfl | hp
  · exact Nat.le_refl _
  · exact Nat.le_trans hle (h.start_le p hp)

/-- A row that is shown is listed in front of those behind it. -/
theorem ListsFrom.cons_row (hshown : shown row) (lines : List Line)
    (h : ListsFrom shown total (row + 1) parts) :
    ListsFrom shown total row (.row row lines :: parts) where
  ordered := List.pairwise_cons.2 ⟨h.start_le, h.ordered⟩
  start_le := h.first_le (Nat.le_succ row)
  rows := by
    intro r
    constructor
    · rintro ⟨ls, hmem⟩
      rcases List.mem_cons.1 hmem with heq | hmem
      · obtain ⟨rfl, -⟩ := Part.row.inj heq
        exact ⟨Nat.le_refl r, hshown⟩
      · obtain ⟨hle, hr⟩ := (h.rows r).1 ⟨ls, hmem⟩
        exact ⟨Nat.le_of_succ_le hle, hr⟩
    · rintro ⟨hle, hr⟩
      rcases Nat.eq_or_lt_of_le hle with rfl | hlt
      · exact ⟨lines, List.mem_cons_self⟩
      · obtain ⟨ls, hmem⟩ := (h.rows r).2 ⟨hlt, hr⟩
        exact ⟨ls, List.mem_cons_of_mem _ hmem⟩
  gaps := by
    intro first next
    rw [List.mem_cons, or_iff_right (by simp), h.gaps]
    refine and_congr_left fun hgap => ⟨Nat.le_of_succ_le, fun hle => ?_⟩
    -- No stretch begins with a row that is shown.
    rcases Nat.eq_or_lt_of_le hle with rfl | hlt
    · exact absurd hshown (hgap.hidden row (Nat.le_refl row) hgap.lt)
    · exact hlt

/-- A stretch of rows that are left out is listed in front of the rows behind it. -/
theorem ListsFrom.cons_gap (hgap : IsGap shown total first next)
    (h : ListsFrom shown total next parts) :
    ListsFrom shown total first (.gap first next :: parts) where
  ordered := List.pairwise_cons.2 ⟨h.start_le, h.ordered⟩
  start_le := h.first_le (Nat.le_of_lt hgap.lt)
  rows := by
    intro row
    simp only [List.mem_cons, reduceCtorEq, false_or, h.rows]
    refine and_congr_left fun hshown => ⟨fun hle => ?_, fun hle => ?_⟩
    · exact Nat.le_trans (Nat.le_of_lt hgap.lt) hle
    · -- A row that is shown stands behind the stretch.
      by_contra hlt
      exact hgap.hidden row hle (by omega) hshown
  gaps := by
    intro first' next'
    rw [List.mem_cons, h.gaps]
    constructor
    · rintro (heq | ⟨hle, hgap'⟩)
      · obtain ⟨rfl, rfl⟩ := Part.gap.inj heq
        exact ⟨Nat.le_refl _, hgap⟩
      · exact ⟨Nat.le_trans (Nat.le_of_lt hgap.lt) hle, hgap'⟩
    · rintro ⟨hle, hgap'⟩
      by_cases hbehind : next ≤ first'
      · exact .inr ⟨hbehind, hgap'⟩
      · -- It shares its first row with this stretch.
        have hlt := hgap'.lt
        obtain ⟨rfl, rfl⟩ := hgap.unique hgap' (by omega) (by omega)
        exact .inl rfl

/-- The parts for some rows in growing order, where `next` is the row behind those listed before. -/
def partsOf (linesOf : Nat → List Line) (total next : Nat) : List Nat → List Part
  | [] => if next < total then [.gap next total] else []
  | row :: rest =>
    (if row ≠ next then [.gap next row] else []) ++
      .row row (linesOf row) :: partsOf linesOf total (row + 1) rest

/-- If the rows in growing order are those that are shown from `next` on, and the row in front of
`next` is shown, the parts list the rows from `next` on. -/
theorem listsFrom_partsOf (linesOf : Nat → List Line) {rows : List Nat}
    (hordered : rows.Pairwise (· < ·)) (hrows : ∀ row, row ∈ rows ↔ next ≤ row ∧ shown row)
    (htotal : ∀ row, shown row → row < total) (hnext : next ≤ total)
    (hleft : ∀ row, row + 1 = next → shown row) :
    ListsFrom shown total next (partsOf linesOf total next rows) := by
  -- The row in front of `next` stays a shown one: it is the row that was listed last.
  induction rows generalizing next with
  | nil =>
    -- Nothing more is shown, so the rows that remain are the last stretch.
    have hhidden : ∀ row, next ≤ row → row < total → ¬ shown row := fun row hle _ hshown =>
      List.not_mem_nil ((hrows row).2 ⟨hle, hshown⟩)
    rw [partsOf]
    rcases Nat.lt_or_eq_of_le hnext with hlt | rfl
    · rw [if_pos hlt]
      have hgap : IsGap shown total next total :=
        ⟨hlt, Nat.le_refl total, hhidden, hleft, fun h => absurd h (Nat.lt_irrefl total)⟩
      exact .cons_gap hgap (.nil htotal)
    · rw [if_neg (Nat.lt_irrefl next)]
      exact .nil htotal
  | cons row rest ih =>
    obtain ⟨hbehind, hrest⟩ := List.pairwise_cons.1 hordered
    obtain ⟨hle, hshown⟩ := (hrows row).1 List.mem_cons_self
    have hrow : ListsFrom shown total row
        (.row row (linesOf row) :: partsOf linesOf total (row + 1) rest) := by
      apply ListsFrom.cons_row hshown
      refine ih hrest (fun r => ⟨fun hr => ?_, fun hr => ?_⟩) (htotal row hshown) fun r hr => ?_
      · exact ⟨hbehind r hr, ((hrows r).1 (List.mem_cons_of_mem row hr)).2⟩
      · have hmem := (hrows r).2 ⟨by omega, hr.2⟩
        exact (List.mem_cons.1 hmem).resolve_left (by omega)
      · rw [Nat.succ.inj hr]
        exact hshown
    rw [partsOf]
    rcases Nat.eq_or_lt_of_le hle with rfl | hlt
    · rw [if_neg (by simp)]
      exact hrow
    · rw [if_pos (by omega)]
      -- The row is the first one that is shown, so those up to it are a whole stretch.
      have hhidden : ∀ r, next ≤ r → r < row → ¬ shown r := by
        intro r hr hbefore hr'
        rcases List.mem_cons.1 ((hrows r).2 ⟨hr, hr'⟩) with rfl | hmem
        · exact Nat.lt_irrefl r hbefore
        · exact absurd (hbehind r hmem) (by omega)
      exact .cons_gap ⟨hlt, Nat.le_of_lt (htotal row hshown), hhidden, hleft, fun _ => hshown⟩ hrow

end Listing

/-! ## Rows near a difference -/

variable {before after : String} {context : Int} {row : Nat}

/-- The row is one of the texts, and it is at most `context` rows away from a difference. -/
structure Near (before after : String) (context : Int) (row : Nat) : Prop where
  /-- One of the texts has the row. -/
  lt : row < rowCount before after
  /-- There is a difference within the context. -/
  exists_changed : ∃ changed : Nat, lineAt before changed ≠ lineAt after changed ∧
    (changed : Int) - context ≤ row ∧ (row : Int) ≤ changed + context

/-- Each difference is near one, itself. -/
theorem near_of_lineAt_ne (hcontext : 0 ≤ context) (h : lineAt before row ≠ lineAt after row) :
    Near before after context row where
  lt := lt_rowCount h
  exists_changed := ⟨row, h, by omega, by omega⟩

/-- The rows shown are those near a difference. -/
theorem mem_shownRows_iff :
    row ∈ shownRows (changedRows (linePairs before after)) (rowCount before after) context ↔
      Near before after context row := by
  unfold shownRows
  rw [List.mem_filter, List.mem_range, List.any_eq_true]
  simp only [Bool.and_eq_true, decide_eq_true_eq, mem_changedRows_iff]
  exact ⟨fun h => ⟨h.1, h.2⟩, fun h => ⟨h.lt, h.exists_changed⟩⟩

/-- The rows are shown in growing order. -/
theorem pairwise_shownRows (changed : List Nat) (total : Nat) (context : Int) :
    (shownRows changed total context).Pairwise (· < ·) :=
  List.pairwise_lt_range.filter _

/-! ## The lines of a row -/

/-- A caret stands behind the gutter in each of the columns, and nowhere else. -/
theorem getElem?_carets_iff {columns : List Nat} (hordered : columns.Pairwise (· < ·)) {k : Nat} :
    (carets columns)[k]? = some '^' ↔ ∃ c, k = gutter + c ∧ c ∈ columns := by
  unfold carets
  dsimp only
  by_cases hk : k < gutter
  · rw [List.getElem?_append_left (by rwa [List.length_replicate]), List.getElem?_replicate,
      if_pos hk]
    constructor
    · -- The gutter holds blanks.
      intro hblank
      exact absurd hblank (by decide)
    · rintro ⟨c, rfl, -⟩
      exact absurd hk (Nat.not_lt.2 (Nat.le_add_right gutter c))
  · obtain ⟨c, rfl⟩ := Nat.exists_eq_add_of_le (Nat.le_of_not_lt hk)
    rw [List.getElem?_append_right (by rw [List.length_replicate]; exact Nat.le_add_right gutter c),
      List.length_replicate, Nat.add_sub_cancel_left, List.getElem?_map]
    constructor
    · intro hmark
      obtain ⟨d, hd, hcaret⟩ := Option.map_eq_some_iff.1 hmark
      obtain ⟨hlt, rfl⟩ := List.getElem?_eq_some_iff.1 hd
      rw [List.getElem_range] at hcaret
      refine ⟨_, rfl, ?_⟩
      by_contra hnot
      rw [if_neg hnot] at hcaret
      exact absurd hcaret (by decide)
    · rintro ⟨d, heq, hd⟩
      obtain rfl : c = d := Nat.add_left_cancel heq
      obtain ⟨last, hlast⟩ : ∃ last, columns.getLast? = some last :=
        ⟨_, List.getLast?_eq_some_getLast (List.ne_nil_of_mem hd)⟩
      have hle : c ≤ last := le_getLast? hordered hlast hd
      rw [hlast, Option.map_some, Option.getD_some, List.getElem?_range (Nat.lt_succ_of_le hle),
        Option.map_some, if_pos hd]

/-- The line of the carets is blank elsewhere. -/
theorem eq_of_mem_carets {columns : List Nat} {d : Char} (hd : d ∈ carets columns) :
    d = '^' ∨ d = ' ' := by
  rcases List.mem_append.1 hd with hd | hd
  · exact .inr (List.eq_of_mem_replicate hd)
  · obtain ⟨c, -, rfl⟩ := List.mem_map.1 hd
    split
    · exact .inl rfl
    · exact .inr rfl

/-- What the lines of a row say. -/
inductive RowShown (row : Nat) (old new : Line) : List Line → Prop where
  /-- A row in which the texts have the same has one line. -/
  | common (hsame : old = new) : RowShown row old new [rowNumber row ++ ":   ".toList ++ new]
  /-- A row in which they differ has both lines, carets in the columns that differ, eight characters
  further to the right, and a list of the first five of these columns. -/
  | changed {marks : Line} {columns : List Nat} (hdiffer : old ≠ new)
      (hcarets : ∀ k, marks[k]? = some '^' ↔ ∃ c, k = 8 + c ∧ old[c]? ≠ new[c]?)
      (hblank : ∀ d ∈ marks, d = '^' ∨ d = ' ')
      (hordered : columns.Pairwise (· < ·))
      (hcolumns : ∀ c, c ∈ columns ↔ old[c]? ≠ new[c]?) :
      RowShown row old new
        [ rowNumber row ++ ": - |".toList ++ old ++ ['|'],
          "     + |".toList ++ new ++ ['|'],
          marks,
          ("     Diff at col(s): " ++ listed ((columns.take 5).map (· + 1)) ++
            if 5 < columns.length then "..." else "").toList ]

/-- The lines of a row say what they should. -/
theorem rowShown_rowLines (row : Nat) (old new : Line) :
    RowShown row old new (rowLines row (old, new)) := by
  unfold rowLines
  split
  · next hsame => exact .common hsame
  · next hdiffer =>
    have hordered := pairwise_differingColumns old new
    refine .changed hdiffer (fun k => ?_) (fun d => eq_of_mem_carets) hordered fun c =>
      mem_differingColumns_iff
    rw [getElem?_carets_iff hordered]
    simp only [mem_differingColumns_iff]
    rfl

/-! ## The body -/

/-- The body is made of its parts. -/
theorem body_eq_flatMap {rows : List Nat} (hrows : ∀ row ∈ rows, row < rowCount before after)
    (next : Nat) :
    body (linePairs before after) next rows =
      (partsOf (fun row => rowLines row (lineAt before row, lineAt after row))
        (rowCount before after) next rows).flatMap Part.lines := by
  induction rows generalizing next with
  | nil =>
    rw [body, partsOf, length_linePairs]
    split
    · rfl
    · rfl
  | cons row rest ih =>
    have hrow : row < rowCount before after := hrows row List.mem_cons_self
    have hrest : ∀ r ∈ rest, r < rowCount before after := fun r hr =>
      hrows r (List.mem_cons_of_mem row hr)
    rw [body, partsOf, getElem?_linePairs hrow, ih hrest, List.flatMap_append, List.flatMap_cons,
      ← List.append_assoc]
    congr 2
    split
    · rfl
    · rfl

/-- A row among the parts has the lines that were given for it. -/
theorem eq_of_row_mem_partsOf {linesOf : Nat → List Line} {total next : Nat} {rows : List Nat}
    {shown : List Line} (hmem : .row row shown ∈ partsOf linesOf total next rows) :
    shown = linesOf row := by
  induction rows generalizing next with
  | nil =>
    rw [partsOf] at hmem
    split at hmem
    · simp at hmem
    · simp at hmem
  | cons r rest ih =>
    rw [partsOf] at hmem
    rcases List.mem_append.1 hmem with hmem | hmem
    · split at hmem
      · simp at hmem
      · simp at hmem
    · rcases List.mem_cons.1 hmem with heq | hmem
      · obtain ⟨rfl, rfl⟩ := Part.row.inj heq
        rfl
      · exact ih hmem

/-- The lines list the rows near a difference, and mark the others. -/
def ListsRows (before after : String) (context : Int) (body : List Line) : Prop :=
  ∃ parts : List Part, body = parts.flatMap Part.lines ∧
    ListsFrom (Near before after context) (rowCount before after) 0 parts ∧
    ∀ row shown, .row row shown ∈ parts →
      RowShown row (lineAt before row) (lineAt after row) shown

/-- The body lists the rows near a difference. -/
theorem listsRows_body (before after : String) (context : Int) :
    ListsRows before after context (body (linePairs before after) 0
      (shownRows (changedRows (linePairs before after)) (rowCount before after) context)) := by
  refine ⟨_, body_eq_flatMap (fun row hrow => (mem_shownRows_iff.1 hrow).lt) 0, ?_, ?_⟩
  · apply listsFrom_partsOf _ (pairwise_shownRows _ _ context)
    · intro row
      rw [mem_shownRows_iff]
      exact (and_iff_right (Nat.zero_le row)).symm
    · exact fun row hnear => hnear.lt
    · exact Nat.zero_le _
    · exact fun row hrow => absurd hrow (Nat.succ_ne_zero row)
  · intro row shown hmem
    rw [eq_of_row_mem_partsOf hmem]
    exact rowShown_rowLines row _ _

/-- Texts that differ in some row are compared without a failure, and what stands between the number
of differences and the notes lists the rows near a difference. -/
theorem text_lists_rows (context : Int) (notes : List (Int × List String))
    (hdiffer : ∃ row, lineAt before row ≠ lineAt after row) :
    ∃ body, ListsRows before after context body ∧
      Checked.lines before after context notes =
        .ok (heading ++ [foundLine before after, []] ++ body ++ noteLines notes) ∧
      text before after context notes =
        Text.block (heading ++ [foundLine before after, []] ++ body ++ noteLines notes) := by
  have hchanged : changedRows (linePairs before after) ≠ [] := by
    obtain ⟨row, hrow⟩ := hdiffer
    exact List.ne_nil_of_mem (mem_changedRows_iff.2 hrow)
  have hlines := lines_of_changed hchanged context notes
  refine ⟨_, listsRows_body before after context, ?_, ?_⟩
  · rw [Checked.lines_eq, hlines]
  · rw [text, hlines]

/-- Two differences with more rows between them than the context reaches. -/
theorem text_lists_rows_far_apart :
    (∃ row, lineAt "a\nb\nc\nd\ne" row ≠ lineAt "A\nb\nc\nd\nE\nf" row) ∧
    ∃ body, ListsRows "a\nb\nc\nd\ne" "A\nb\nc\nd\nE\nf" 1 body ∧
      Checked.lines "a\nb\nc\nd\ne" "A\nb\nc\nd\nE\nf" 1 [] =
        .ok (heading ++ [foundLine "a\nb\nc\nd\ne" "A\nb\nc\nd\nE\nf", []] ++ body) := by
  have hdiffer : ∃ row, lineAt "a\nb\nc\nd\ne" row ≠ lineAt "A\nb\nc\nd\nE\nf" row :=
    ⟨4, by decide⟩
  refine ⟨hdiffer, ?_⟩
  obtain ⟨body, hbody, hlines, -⟩ := text_lists_rows 1 [] hdiffer
  refine ⟨body, hbody, ?_⟩
  rw [hlines, noteLines, List.append_nil]

end Wireframe.Difference
