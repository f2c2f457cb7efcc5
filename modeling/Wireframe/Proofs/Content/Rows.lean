import Mathlib.Tactic.ByContra
import Mathlib.Tactic.Set
import Wireframe.Proofs.Trees

/-!
# Problems on a row of content

Reading a scene finds problems only on rows inside boxes that no box inside covers
(`exists_row_of_mem_scene`). Content that opens a bracket and does not close it ends before a gap: a
run of words goes on over single spaces, so a space and a closing bracket behind it would belong to
the content (`unclosedBracket_of_mem_contentRow`).
-/

namespace Wireframe

/-! ## Segments -/

namespace Segment

/-- A segment is what stands at its start, up to its length there. -/
theorem exists_of_mem_scan {passed skip : Nat} {cs : Line} {s : Segment}
    (h : s ∈ scan passed skip cs) :
    ∃ before rest, cs = before ++ rest ∧ s.start = passed + before.length ∧
      s.text = rest.take (lengthAt rest) := by
  induction cs generalizing passed skip with
  | nil => simp [scan] at h
  | cons c cs ih =>
    -- What is found behind the first character has that character in front.
    have hbehind : ∀ skip, s ∈ scan (passed + 1) skip cs →
        ∃ before rest, c :: cs = before ++ rest ∧ s.start = passed + before.length ∧
          s.text = rest.take (lengthAt rest) := by
      intro skip h
      obtain ⟨before, rest, rfl, hstart, htext⟩ := ih h
      refine ⟨c :: before, rest, rfl, ?_, htext⟩
      rw [hstart, List.length_cons]
      omega
    cases skip with
    | succ skip => exact hbehind skip h
    | zero =>
      rw [scan] at h
      split at h
      · exact hbehind 0 h
      · next n hn =>
        rcases List.mem_cons.1 h with rfl | h
        · exact ⟨[], c :: cs, rfl, rfl, by rw [hn]⟩
        · exact hbehind n h

/-- The text of a segment stands in the line from the start of the segment on. -/
theorem text_prefix_of_mem_ofLine {line : Line} {s : Segment} (h : s ∈ ofLine line) :
    s.text <+: line.drop s.start := by
  obtain ⟨before, rest, rfl, hstart, htext⟩ := exists_of_mem_scan h
  have hdrop : (before ++ rest).drop s.start = rest := by
    rw [hstart, Nat.zero_add, List.drop_left]
  rw [hdrop, htext]
  exact List.take_prefix _ _

/-- Words end before a gap: no single space with a character behind it follows them. -/
theorem not_prefix_drop_words {d : Char} (hd : Text.isBlank d = false) (cs : Line) :
    ¬ [' ', d] <+: cs.drop (words cs) := by
  induction cs using words.induct with
  | case1 c cs hblank =>
    rw [words, if_pos hblank]
    rintro ⟨rest, hrest⟩
    simp only [List.cons_append, List.nil_append, List.drop_zero, List.cons.injEq] at hrest
    rw [← hrest.2.1, hd] at hblank
    simp at hblank
  | case2 c cs hword ih =>
    rw [words, if_neg hword]
    exact ih
  | case3 c cs hfirst hblank =>
    rw [words, if_pos hblank]
    · rintro ⟨rest, hrest⟩
      simp only [List.cons_append, List.nil_append, List.drop_zero, List.cons.injEq] at hrest
      exact hfirst d rest hrest.1.symm hrest.2.symm
    · exact hfirst
  | case4 c cs hfirst hword ih =>
    rw [words, if_neg hword]
    · exact ih
    · exact hfirst
  | case5 => simp

/-- A segment that opens a bracket and does not close it is a run of words. -/
theorem lengthAt_eq_words {cs : Line} (hopen : (cs.take (lengthAt cs)).head? = some '[')
    (hclose : ']' ∉ cs.take (lengthAt cs)) : lengthAt cs = words cs := by
  obtain ⟨rest, rfl⟩ : ∃ rest, cs = '[' :: rest := by
    cases cs with
    | nil => simp at hopen
    | cons c rest =>
      cases hlength : lengthAt (c :: rest) with
      | zero => simp [hlength] at hopen
      | succ n => exact ⟨rest, by simpa [hlength] using hopen⟩
  set inside : Char → Bool := fun c => c != '[' && c != ']' with hinside
  have hquotes : enclosed '"' '"' (· != '"') ('[' :: rest) = 0 := by simp [enclosed]
  have hbrackets : enclosed '[' ']' inside ('[' :: rest) = 0 := by
    by_contra hne
    -- A bracketed text would end with its closing bracket.
    have hlength : lengthAt ('[' :: rest) = enclosed '[' ']' inside ('[' :: rest) := by
      unfold lengthAt
      exact if_pos hne
    simp only [enclosed, if_true] at hne hlength
    split at hlength
    · next hbracket =>
      refine hclose (List.mem_iff_getElem?.2 ⟨(rest.takeWhile inside).length + 1, ?_⟩)
      rw [hlength, List.getElem?_take_of_lt (by omega), List.getElem?_cons_succ, hbracket]
    · next hbracket => exact hne (if_neg hbracket)
  have hblank : Text.isBlank '[' = false := by decide
  have hword : ('[' :: rest).head?.any (fun c => !Text.isBlank c) = true := by simp [hblank]
  unfold lengthAt
  simp only [← hinside, hbrackets, hquotes, ne_eq, not_true, if_false, hword, if_true]

end Segment

namespace Reader

variable {r : Reader} {b : Bounds} {d : Diagnostic} {row : Int}

/-! ## Open brackets -/

/-- A bracket is said to be open only of content that opens one and does not close it. -/
theorem unclosedBracket_of_mem_syntaxProblem {content : Line} {p : Position}
    (h : d ∈ syntaxProblem content p) (hkind : d.kind = .unclosedBracket) :
    d = .syntaxError .unclosedBracket p (String.ofList content) ∧ content.head? = some '[' ∧
      ']' ∉ content := by
  unfold syntaxProblem at h
  dsimp only at h
  split at h
  · next hopen => exact ⟨List.mem_singleton.1 h, hopen⟩
  · split at h
    · rw [List.mem_singleton.1 h] at hkind
      simp [Diagnostic.syntaxError] at hkind
    · split at h
      · rw [List.mem_singleton.1 h] at hkind
        simp [Diagnostic.syntaxError] at hkind
      · simp at h

/-- A line is what trimming takes away on the left, what trimming leaves, and what it takes away on
the right. -/
theorem exists_blanks_trim (text : Line) :
    ∃ before after, text = before ++ Text.trim text ++ after ∧
      before.length = text.length - (Text.trimLeft text).length ∧ Text.allBlank after = true := by
  have hleft : Text.trimLeft text = Text.trimLeft text := rfl
  have hright : Text.trimRight (Text.trimLeft text) = Text.trim text := rfl
  obtain ⟨⟨before, -, hbefore⟩, -⟩ := Text.trimLeft_eq_iff.1 hleft
  obtain ⟨⟨after, hblank, hafter⟩, -⟩ := Text.trimRight_eq_iff.1 hright
  refine ⟨before, after, ?_, ?_, hblank⟩
  · rw [List.append_assoc, ← hafter]
    exact hbefore
  · have hlength := congrArg List.length hbefore
    rw [List.length_append] at hlength
    omega

/-- What is left of a line after trimming stands in the line where the blanks on its left end. -/
theorem trim_prefix_drop (text : Line) :
    Text.trim text <+: text.drop (text.length - (Text.trimLeft text).length) := by
  obtain ⟨before, after, htext, hlength, -⟩ := exists_blanks_trim text
  have hdrop : text.drop before.length = Text.trim text ++ after := by
    conv_lhs => rw [htext, List.append_assoc, List.drop_left]
  rw [← hlength, hdrop]
  exact List.prefix_append _ _

/-- Where a bracket is said to be open on a row of content, no space with a closing bracket behind
it follows the content. -/
theorem unclosedBracket_of_mem_contentRow {text : Line}
    (h : d ∈ (r.contentRow row b text).problems) (hkind : d.kind = .unclosedBracket) :
    ∃ (k : Nat) (content : Line),
      d = .syntaxError .unclosedBracket (r.place row (b.left + 1 + k)) (String.ofList content) ∧
        content ≠ [] ∧ k + content.length ≤ text.length ∧
        ¬ [' ', ']'] <+: text.drop (k + content.length) := by
  unfold contentRow at h
  dsimp only at h
  split at h
  · -- Several segments: each of them ends before a gap.
    have hsegments : d ∈ (Segment.ofLine text).flatMap fun s =>
        syntaxProblem s.text (r.place row (b.left + 1 + s.start)) := by
      split at h <;> exact h
    obtain ⟨s, hs, hd⟩ := List.mem_flatMap.1 hsegments
    obtain ⟨rfl, hopen, hclose⟩ := unclosedBracket_of_mem_syntaxProblem hd hkind
    obtain ⟨before, rest, rfl, hstart, htext⟩ := Segment.exists_of_mem_scan hs
    rw [htext] at hopen hclose
    have hwords := Segment.lengthAt_eq_words hopen hclose
    have hlength : s.start + s.text.length ≤ (before ++ rest).length := by
      rw [hstart, htext, List.length_append]
      have hshort := List.length_take_le' (Segment.lengthAt rest) rest
      omega
    refine ⟨s.start, s.text, rfl, fun hnil => ?_, hlength, ?_⟩
    · rw [← htext, hnil] at hopen
      simp at hopen
    · have hdrop : (before ++ rest).drop (s.start + s.text.length) =
          rest.drop (Segment.words rest) := by
        rw [hstart, htext, hwords, List.length_take]
        rcases Nat.le_total (Segment.words rest) rest.length with hle | hge
        · simp [Nat.min_eq_left hle]
        · simp [Nat.min_eq_right hge, List.drop_eq_nil_of_le hge]
      rw [hdrop]
      exact Segment.not_prefix_drop_words (by decide) rest
  · -- The whole row: nothing but blanks follow the content.
    obtain ⟨rfl, hopen, -⟩ := unclosedBracket_of_mem_syntaxProblem h hkind
    obtain ⟨before, after, htext, hlength, hblank⟩ := exists_blanks_trim text
    have htotal := congrArg List.length htext
    rw [List.length_append, List.length_append] at htotal
    refine ⟨text.length - (Text.trimLeft text).length, Text.trim text, rfl, fun hnil => ?_,
      by omega, ?_⟩
    · rw [hnil] at hopen
      simp at hopen
    · have hdrop : (before ++ Text.trim text ++ after).drop
          (before.length + (Text.trim text).length) = after := by
        rw [← List.length_append, List.drop_left]
      rw [← htext, hlength] at hdrop
      rw [hdrop]
      intro hprefix
      have hmem : ']' ∈ after := hprefix.subset (by simp)
      exact absurd (List.all_eq_true.1 hblank ']' hmem) (by decide)

/-! ## Rows -/

/-- On a row that no box covers a bracket is said to be open at a place that is not left of the row,
and no space with a closing bracket behind it follows the content there. -/
theorem unclosedBracket_of_mem_row (h : d ∈ (r.row row b).problems)
    (hkind : d.kind = .unclosedBracket) :
    ∃ (k : Nat) (content : Line),
      d = .syntaxError .unclosedBracket (r.place row (b.left + 1 + k)) (String.ofList content) ∧
        content ≠ [] ∧
        k + content.length ≤ (r.grid.rowChars row (b.left + 1) (some b.right)).length ∧
        ¬ [' ', ']'] <+: (r.grid.rowChars row (b.left + 1) (some b.right)).drop
          (k + content.length) := by
  unfold Reader.row at h
  dsimp only at h
  split at h
  · simp at h
  · exact unclosedBracket_of_mem_contentRow h hkind

/-- The problems of a row inside a box are those of the row itself and of the boxes inside. -/
theorem mem_problems_interiorRow {inner : List Inner}
    (h : d ∈ (r.interiorRow b inner row).problems) :
    d ∈ (r.row row b).problems ∨ ∃ i ∈ inner, d ∈ i.reading.problems := by
  have hbegun : d ∈ (Reading.concat ((sortBy (fun x y => decide (x.bounds.left ≤ y.bounds.left))
      (inner.filter fun i => decide (i.bounds.top = row))).map (·.reading))).problems →
      ∃ i ∈ inner, d ∈ i.reading.problems := by
    intro h
    rw [Reading.problems_concat, List.mem_flatMap] at h
    obtain ⟨reading, hreading, hd⟩ := h
    obtain ⟨i, hi, rfl⟩ := List.mem_map.1 hreading
    exact ⟨i, (List.mem_filter.1 (mem_sortBy.1 hi)).1, hd⟩
  unfold interiorRow at h
  dsimp only at h
  split at h
  · exact .inr (hbegun h)
  · split at h
    · rcases List.mem_append.1 h with h | h
      · exact .inr (hbegun h)
      · simp at h
    · rcases List.mem_append.1 h with h | h
      · exact .inr (hbegun h)
      · exact .inl h

/-- The problems met while reading a box are met on rows inside it or inside the boxes it holds. -/
theorem exists_row_of_mem_box {t : BoxTree} (h : d ∈ (r.box t).problems) :
    ∃ box ∈ t.boxes, ∃ row ∈ Grid.innerRows box.bounds, d ∈ (r.row row box.bounds).problems := by
  induction t with
  | mk box children ih =>
    have hrows : d ∈ (Reading.concat ((Grid.innerRows box.bounds).map
        (r.interiorRow box.bounds (r.boxes children)))).problems := h
    rw [Reading.problems_concat, List.mem_flatMap] at hrows
    obtain ⟨reading, hreading, hd⟩ := hrows
    obtain ⟨row, hrow, rfl⟩ := List.mem_map.1 hreading
    rw [BoxTree.boxes_eq]
    rcases mem_problems_interiorRow hd with hown | ⟨i, hi, hinner⟩
    · exact ⟨box, List.mem_cons_self, row, hrow, hown⟩
    · rw [boxes_eq_map] at hi
      obtain ⟨c, hc, rfl⟩ := List.mem_map.1 hi
      obtain ⟨box', hbox', hfound⟩ := ih c hc hinner
      exact ⟨box', List.mem_cons_of_mem _ (List.mem_flatMap.2 ⟨c, hc, hbox'⟩), hfound⟩

/-- The problems met while reading a scene are met on rows inside its boxes. -/
theorem exists_row_of_mem_scene (block : Scene.Block) {roots : List BoxTree}
    (h : d ∈ (r.scene block roots).2) :
    ∃ box ∈ BoxTree.boxesOfAll roots, ∃ row ∈ Grid.innerRows box.bounds,
      d ∈ (r.row row box.bounds).problems := by
  have hboxes : d ∈ (Reading.concat (roots.map r.box)).problems := h
  rw [Reading.problems_concat, List.mem_flatMap] at hboxes
  obtain ⟨reading, hreading, hd⟩ := hboxes
  obtain ⟨t, ht, rfl⟩ := List.mem_map.1 hreading
  obtain ⟨box, hbox, hfound⟩ := exists_row_of_mem_box hd
  rw [BoxTree.boxesOfAll_eq_flatMap]
  exact ⟨box, List.mem_flatMap.2 ⟨t, ht, hbox⟩, hfound⟩

end Reader

end Wireframe
