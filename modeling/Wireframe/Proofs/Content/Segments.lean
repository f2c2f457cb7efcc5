import Wireframe.Proofs.Content.Rows

/-!
# Segments of a trimmed line

The segments of a line do not depend on the blanks around it: those in front are passed
(`scan_blanks_append`) and those behind hold no segment (`scan_append`). If what is left of a line
begins with a bracketed character and a space, the bracketed character is a segment of its own and
the other segments are those of the rest (`map_text_ofLine`).
-/

namespace Wireframe

/-! ## Trimming -/

namespace Text

/-- Trimming on the left takes away the blanks that a line begins with. -/
theorem length_sub_length_trimLeft (line : Line) :
    line.length - (trimLeft line).length = (line.takeWhile isBlank).length := by
  have hlength := congrArg List.length (List.takeWhile_append_dropWhile (p := isBlank) (l := line))
  rw [List.length_append] at hlength
  have hleft : trimLeft line = line.dropWhile isBlank := rfl
  rw [hleft]
  omega

/-- A line is the blanks that it begins with, what trimming leaves, and more blanks. -/
theorem exists_eq_takeWhile_append_trim (line : Line) :
    ∃ after, line = line.takeWhile isBlank ++ (trim line ++ after) ∧ allBlank after = true := by
  obtain ⟨before, after, hline, hlength, hafter⟩ := Reader.exists_blanks_trim line
  rw [length_sub_length_trimLeft] at hlength
  refine ⟨after, ?_, hafter⟩
  have hsplit : before ++ (trim line ++ after) =
      line.takeWhile isBlank ++ line.dropWhile isBlank := by
    rw [List.takeWhile_append_dropWhile, ← List.append_assoc, ← hline]
  rw [← (List.append_inj hsplit hlength).1, ← List.append_assoc]
  exact hline

/-- Trimming on the left leaves a line as it is if trimming does. -/
theorem trimLeft_of_trim_eq {line : Line} (h : trim line = line) : trimLeft line = line :=
  trimLeft_eq_iff.2 ⟨⟨[], rfl, rfl⟩, (trim_eq_iff.1 h).first⟩

end Text

/-! ## Segments -/

namespace Segment

variable {passed skip : Nat} {cs after : Line}

/-- A text between two marks at the start of a line ends in the line. -/
theorem enclosed_le_length (opening closing : Char) (inside : Char → Bool) (cs : Line) :
    enclosed opening closing inside cs ≤ cs.length := by
  cases cs with
  | nil => simp [enclosed]
  | cons c cs =>
    rw [enclosed]
    dsimp only
    split
    · split
      · next hclosing =>
        have hlt := (List.getElem?_eq_some_iff.1 hclosing).1
        rw [List.length_cons]
        omega
      · omega
    · omega

/-- The words at the start of a line end in the line. -/
theorem words_le_length (cs : Line) : words cs ≤ cs.length := by
  fun_induction words cs <;> simp_all

/-- A segment ends in its line. -/
theorem lengthAt_le_length (cs : Line) : lengthAt cs ≤ cs.length := by
  unfold lengthAt
  dsimp only
  split
  · exact enclosed_le_length ..
  · split
    · exact enclosed_le_length ..
    · split
      · exact words_le_length cs
      · omega

/-- What is written behind a line does not change the text between two marks at its start, unless
it closes the text. -/
theorem enclosed_append {opening closing : Char} (inside : Char → Bool) (hclosing : closing ∉ after)
    (hcs : cs ≠ []) : enclosed opening closing inside (cs ++ after) =
      enclosed opening closing inside cs := by
  cases cs with
  | nil => exact absurd rfl hcs
  | cons c cs =>
    rw [List.cons_append, enclosed, enclosed]
    dsimp only
    rw [List.takeWhile_append]
    split
    · split
      · next hall =>
        -- All of the line is inside, so only what is written behind could close the text.
        have hopen : (cs ++ after)[(cs ++ after.takeWhile inside).length]? ≠ some closing := by
          rw [List.length_append, List.getElem?_append_right (by omega)]
          intro hclose
          exact hclosing (List.mem_of_getElem? hclose)
        rw [if_neg hopen, hall, List.getElem?_eq_none (Nat.le_refl _), if_neg (by simp)]
      · next hpart =>
        have hlt : (cs.takeWhile inside).length < cs.length :=
          Nat.lt_of_le_of_ne (List.takeWhile_prefix inside).length_le hpart
        rw [List.getElem?_append_left hlt]
    · rfl

/-- There are no words at the start of blanks. -/
theorem words_of_allBlank (h : Text.allBlank after = true) : words after = 0 := by
  have hall := List.all_eq_true.1 h
  cases after with
  | nil => rfl
  | cons c cs =>
    have hc : Text.isBlank c = true := hall c List.mem_cons_self
    unfold words
    split
    · next c cs heq =>
      obtain ⟨rfl, rfl⟩ := List.cons.inj heq
      exact if_pos (hall c (by simp))
    · next heq =>
      obtain ⟨rfl, rfl⟩ := List.cons.inj heq
      exact if_pos hc
    · rfl

/-- Blanks behind a line do not change the words at its start. -/
theorem words_append (h : Text.allBlank after = true) (cs : Line) :
    words (cs ++ after) = words cs := by
  induction cs using words.induct with
  | case1 c cs hblank => simp [words, hblank]
  | case2 c cs hword ih => simp [words, hword, ih]
  | case3 c cs hfirst hblank =>
    rw [words.eq_2 c cs hfirst, if_pos hblank]
    by_cases hspace : c = ' '
    · -- A space that ends the line is followed by blanks only.
      obtain rfl : cs = [] := by
        cases cs with
        | nil => rfl
        | cons d cs => exact (hfirst d cs hspace rfl).elim
      exact words_of_allBlank (by simpa [Text.allBlank, hblank] using h)
    · rw [List.cons_append, words.eq_2 c _ (fun _ _ hc => absurd hc hspace), if_pos hblank]
  | case4 c cs hfirst hword ih =>
    have hspace : c ≠ ' ' := fun hc => hword (by rw [hc]; decide)
    rw [List.cons_append, words.eq_2 c _ (fun _ _ hc => absurd hc hspace), if_neg hword, ih,
      words.eq_2 c cs hfirst, if_neg hword]
  | case5 => simpa [words] using words_of_allBlank h

/-- Blanks behind a line do not change the length of the segment at its start. -/
theorem lengthAt_append (h : Text.allBlank after = true) (hcs : cs ≠ []) :
    lengthAt (cs ++ after) = lengthAt cs := by
  have hnot : ∀ {c : Char}, Text.isBlank c = false → c ∉ after := fun {c} hc hmem => by
    rw [List.all_eq_true.1 h c hmem] at hc
    exact absurd hc (by decide)
  have hhead : (cs ++ after).head? = cs.head? := by
    rw [List.head?_append_of_ne_nil _ hcs]
  unfold lengthAt
  rw [enclosed_append _ (hnot (by decide)) hcs, enclosed_append _ (hnot (by decide)) hcs, hhead,
    words_append h]

/-- A segment starts at every character but a blank. -/
theorem lengthAt_cons_eq_zero_iff {c : Char} :
    lengthAt (c :: cs) = 0 ↔ Text.isBlank c = true := by
  have hbracket : c = '[' → Text.isBlank c = false := fun hc => by rw [hc]; decide
  have hquote : c = '"' → Text.isBlank c = false := fun hc => by rw [hc]; decide
  unfold lengthAt
  constructor
  · intro hzero
    by_contra hfilled
    rw [Bool.not_eq_true] at hfilled
    have hwords : words (c :: cs) ≠ 0 := by
      unfold words
      split
      · next heq =>
        obtain ⟨rfl, rfl⟩ := List.cons.inj heq
        exact absurd hfilled (by decide)
      · next heq =>
        obtain ⟨rfl, rfl⟩ := List.cons.inj heq
        simp [hfilled]
      · next heq => exact absurd heq (List.cons_ne_nil c cs)
    dsimp only at hzero
    split at hzero
    · contradiction
    · split at hzero
      · contradiction
      · rw [if_pos (by simp [hfilled])] at hzero
        contradiction
  · intro hblank
    have hneb : c ≠ '[' := fun hc => by simp [hbracket hc] at hblank
    have hneq : c ≠ '"' := fun hc => by simp [hquote hc] at hblank
    simp [enclosed, hneb, hneq, hblank]

/-- Blanks in front of a line are passed. -/
theorem scan_blanks_append {before : Line} (h : Text.allBlank before = true) (passed : Nat)
    (cs : Line) : scan passed 0 (before ++ cs) = scan (passed + before.length) 0 cs := by
  induction before generalizing passed with
  | nil => rfl
  | cons c before ih =>
    rw [Text.allBlank, List.all_cons, Bool.and_eq_true] at h
    have hlength : lengthAt (c :: (before ++ cs)) = 0 := lengthAt_cons_eq_zero_iff.2 h.1
    rw [List.cons_append, scan, hlength]
    dsimp only
    rw [ih h.2, List.length_cons]
    congr 1
    omega

/-- There are no segments in blanks. -/
theorem scan_of_allBlank (h : Text.allBlank cs = true) (passed skip : Nat) :
    scan passed skip cs = [] := by
  induction cs generalizing passed skip with
  | nil => rfl
  | cons c cs ih =>
    rw [Text.allBlank, List.all_cons, Bool.and_eq_true] at h
    cases skip with
    | succ skip => exact ih h.2 (passed + 1) skip
    | zero =>
      rw [scan, lengthAt_cons_eq_zero_iff.2 h.1]
      exact ih h.2 (passed + 1) 0

/-- Blanks behind a line hold no segments. -/
theorem scan_append (h : Text.allBlank after = true) (passed skip : Nat) (cs : Line) :
    scan passed skip (cs ++ after) = scan passed skip cs := by
  induction cs generalizing passed skip with
  | nil => rw [List.nil_append, scan_of_allBlank h, scan]
  | cons c cs ih =>
    cases skip with
    | succ skip => exact ih (passed + 1) skip
    | zero =>
      have hlength := lengthAt_append h (List.cons_ne_nil c cs)
      rw [List.cons_append] at hlength ⊢
      rw [scan, scan, hlength]
      split
      · exact ih (passed + 1) 0
      · next n hn =>
        have hle := lengthAt_le_length (c :: cs)
        rw [ih, ← List.cons_append, List.take_append_of_le_length (by omega)]

/-- What is passed in front of segments is not part of them. -/
theorem map_text_scan (passed passed' skip : Nat) (cs : Line) :
    (scan passed skip cs).map (·.text) = (scan passed' skip cs).map (·.text) := by
  induction cs generalizing passed passed' skip with
  | nil => rfl
  | cons c cs ih =>
    cases skip with
    | succ skip => exact ih (passed + 1) (passed' + 1) skip
    | zero =>
      rw [scan, scan]
      split
      · exact ih (passed + 1) (passed' + 1) 0
      · rw [List.map_cons, List.map_cons, ih (passed + 1) (passed' + 1)]

/-- The first segment of a line that begins with no blank begins as the line does. -/
theorem exists_ofLine_cons {c : Char} (hc : Text.isBlank c = false) (cs : Line) :
    ∃ first rest, ofLine (c :: cs) = first :: rest ∧ first.text.head? = some c := by
  cases hlength : lengthAt (c :: cs) with
  | zero =>
    rw [lengthAt_cons_eq_zero_iff.1 hlength] at hc
    exact absurd hc (by decide)
  | succ n =>
    refine ⟨⟨0, (c :: cs).take (n + 1)⟩, scan 1 n cs, ?_, rfl⟩
    rw [ofLine, scan, hlength]

/-- A segment begins as a control does if it begins with a bracket or a quotation mark. -/
theorem opensControl_iff {s : Segment} :
    s.opensControl = true ↔ s.text.head? = some '[' ∨ s.text.head? = some '"' := by
  unfold opensControl
  cases s.text.head? <;> simp

/-- The segments of a line with a bracketed character in front. -/
theorem map_text_ofLine {text label : Line} {mark : Char} (hmark : mark ≠ '[' ∧ mark ≠ ']')
    (h : Text.trim text = '[' :: mark :: ']' :: ' ' :: label) :
    (ofLine text).map (·.text) = ['[', mark, ']'] :: (ofLine label).map (·.text) := by
  obtain ⟨after, htext, hafter⟩ := Text.exists_eq_takeWhile_append_trim text
  have hlength : lengthAt ('[' :: mark :: ']' :: ' ' :: label) = 3 := by
    simp [lengthAt, enclosed, hmark.1, hmark.2]
  have hspace : lengthAt (' ' :: label) = 0 := lengthAt_cons_eq_zero_iff.2 (by decide)
  rw [htext, ofLine, scan_blanks_append List.all_takeWhile, scan_append hafter, h, scan, hlength]
  simp only [scan, hspace, List.map_cons, List.take_succ_cons, List.take_zero, ofLine]
  rw [map_text_scan _ 0]

/-- What holds of the segments of a line with a bracketed character in front holds of the bracketed
character and of the other segments. -/
theorem forall_mem_ofLine_iff {text label : Line} {mark : Char} {P : Line → Prop}
    (hmark : mark ≠ '[' ∧ mark ≠ ']')
    (h : Text.trim text = '[' :: mark :: ']' :: ' ' :: label) :
    (∀ s ∈ ofLine text, P s.text) ↔ P ['[', mark, ']'] ∧ ∀ s ∈ ofLine label, P s.text := by
  have htexts : ∀ line, (∀ s ∈ ofLine line, P s.text) ↔
      ∀ t ∈ (ofLine line).map (·.text), P t := fun _ => List.forall_mem_map.symm
  rw [htexts, htexts, map_text_ofLine hmark h, List.forall_mem_cons]

/-- A line with a bracketed character and more content behind it has several segments. -/
theorem two_le_length_ofLine {text label : Line} {mark : Char} (hmark : mark ≠ '[' ∧ mark ≠ ']')
    (h : Text.trim text = '[' :: mark :: ']' :: ' ' :: label) (hne : label ≠ [])
    (htrim : Text.trim label = label) : 2 ≤ (ofLine text).length := by
  obtain ⟨c, cs, rfl⟩ := List.exists_cons_of_ne_nil hne
  obtain ⟨first, rest, hlabel, -⟩ := exists_ofLine_cons ((Text.trim_eq_iff.1 htrim).first _ rfl) cs
  have hlength := congrArg List.length (map_text_ofLine hmark h)
  rw [List.length_map, List.length_cons, List.length_map, hlabel, List.length_cons] at hlength
  omega

end Segment

end Wireframe
