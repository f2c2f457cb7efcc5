import Wireframe.Text.Line

/-!
# Blank characters

The characters that count as white space, and trimming by them. What trimming leaves of a line is
told by `Trims`.
-/

namespace Wireframe.Text

/-- The ranges of code points that are blank, both ends included: the controls from tab to
carriage return, the four separators from U+001C, the space, and the white space outside ASCII.
The zero width space and the byte order mark are not among them. -/
def blankRanges : List (Nat × Nat) :=
  [(0x09, 0x0D), (0x1C, 0x20), (0x85, 0x85), (0xA0, 0xA0), (0x1680, 0x1680), (0x2000, 0x200A),
    (0x2028, 0x2029), (0x202F, 0x202F), (0x205F, 0x205F), (0x3000, 0x3000)]

/-- Whether a code point lies in one of several ranges, both ends included. -/
def inRanges (ranges : List (Nat × Nat)) (n : Nat) : Bool :=
  ranges.any fun (first, last) => decide (first ≤ n) && decide (n ≤ last)

/-- Whether a character is white space. -/
def isBlank (c : Char) : Bool := inRanges blankRanges c.toNat

/-- Whether a line holds blank characters only. -/
def allBlank (line : Line) : Bool := line.all isBlank

/-- A line without its leading blank characters. -/
def trimLeft (line : Line) : Line := line.dropWhile isBlank

/-- A line without its trailing blank characters. -/
def trimRight (line : Line) : Line := (line.reverse.dropWhile isBlank).reverse

/-- A line without the blank characters at both ends. -/
def trim (line : Line) : Line := trimRight (trimLeft line)

/-- A line without the leading and trailing occurrences of one character. -/
def trimChar (c : Char) (line : Line) : Line :=
  ((line.dropWhile (· == c)).reverse.dropWhile (· == c)).reverse

/-- Blankness does not depend on the order. -/
theorem allBlank_reverse (line : Line) : allBlank line.reverse = allBlank line := by
  simp [allBlank]

variable {line value : Line}

/-- What trimming on the left leaves stands behind blanks and does not begin with one. -/
theorem trimLeft_eq_iff :
    trimLeft line = value ↔ (∃ blanks, allBlank blanks = true ∧ line = blanks ++ value) ∧
      ∀ c, value.head? = some c → isBlank c = false := by
  constructor
  · rintro rfl
    refine ⟨⟨line.takeWhile isBlank, List.all_takeWhile,
      List.takeWhile_append_dropWhile.symm⟩, fun c hc => ?_⟩
    have hhead := List.head?_dropWhile_not isBlank line
    unfold trimLeft at hc
    rw [hc] at hhead
    exact hhead
  · rintro ⟨⟨blanks, hblanks, rfl⟩, hfirst⟩
    unfold trimLeft
    rw [List.dropWhile_append_of_pos (List.all_eq_true.1 hblanks)]
    cases value with
    | nil => rfl
    | cons c value => rw [List.dropWhile_cons, if_neg (by simp [hfirst c rfl])]

/-- So a line is trimmed on the left down to its first character that is not blank. -/
theorem trimLeft_append_cons {blanks : Line} {c : Char} (hblanks : allBlank blanks = true)
    (hc : isBlank c = false) (rest : Line) : trimLeft (blanks ++ c :: rest) = c :: rest :=
  trimLeft_eq_iff.2 ⟨⟨blanks, hblanks, rfl⟩, fun _ hfirst => Option.some.inj hfirst ▸ hc⟩

/-- What trimming on the right leaves stands in front of blanks and does not end with one. -/
theorem trimRight_eq_iff :
    trimRight line = value ↔ (∃ blanks, allBlank blanks = true ∧ line = value ++ blanks) ∧
      ∀ c, value.getLast? = some c → isBlank c = false := by
  -- It is trimming on the left, with the line read backwards.
  have hmirror : trimRight line = value ↔ trimLeft line.reverse = value.reverse := by
    unfold trimRight trimLeft
    exact List.reverse_eq_iff
  rw [hmirror, trimLeft_eq_iff]
  simp only [List.getLast?_eq_head?_reverse]
  refine and_congr_left fun _ => ⟨?_, ?_⟩
  · rintro ⟨blanks, hblanks, heq⟩
    refine ⟨blanks.reverse, by rwa [allBlank_reverse], ?_⟩
    rw [← List.reverse_reverse line, heq, List.reverse_append, List.reverse_reverse]
  · rintro ⟨blanks, hblanks, rfl⟩
    exact ⟨blanks.reverse, by rwa [allBlank_reverse], List.reverse_append⟩

/-- Trimming on the left leaves nothing exactly of a blank line. -/
theorem trimLeft_eq_nil_iff (line : Line) : trimLeft line = [] ↔ allBlank line = true := by
  rw [trimLeft_eq_iff]
  constructor
  · rintro ⟨⟨blanks, hblanks, rfl⟩, -⟩
    rwa [List.append_nil]
  · intro hblank
    exact ⟨⟨line, hblank, (List.append_nil line).symm⟩, fun c hc => nomatch hc⟩

/-- What is left of a line after trimming on the left is blank only when the line is. -/
theorem allBlank_trimLeft_iff (line : Line) :
    allBlank (trimLeft line) = true ↔ allBlank line = true := by
  have hleft : trimLeft line = trimLeft line := rfl
  obtain ⟨⟨blanks, hblanks, hline⟩, -⟩ := trimLeft_eq_iff.1 hleft
  unfold allBlank at hblanks ⊢
  conv => rhs; rw [hline, List.all_append, hblanks, Bool.true_and]

/-- Trimming on the right leaves nothing exactly of a blank line. -/
theorem trimRight_eq_nil_iff (line : Line) : trimRight line = [] ↔ allBlank line = true := by
  rw [trimRight, List.reverse_eq_nil_iff, ← allBlank_reverse]
  exact trimLeft_eq_nil_iff line.reverse

/-- Trimming leaves nothing exactly of a blank line. -/
theorem trim_eq_nil_iff (line : Line) : trim line = [] ↔ allBlank line = true := by
  rw [trim, trimRight_eq_nil_iff, allBlank_trimLeft_iff]

/-- A line is some text with blanks around it, and the text has none at its ends. -/
structure Trims (line value : Line) : Prop where
  /-- The line is the text, with blanks in front of it and behind it. -/
  around : ∃ front back, allBlank front = true ∧ allBlank back = true ∧
    line = front ++ value ++ back
  /-- The text does not begin with a blank. -/
  first : ∀ c, value.head? = some c → isBlank c = false
  /-- It does not end with one. -/
  last : ∀ c, value.getLast? = some c → isBlank c = false

/-- Trimming leaves the text that has no blanks at its ends. -/
theorem trim_eq_iff : trim line = value ↔ Trims line value := by
  unfold trim
  rw [trimRight_eq_iff]
  constructor
  · rintro ⟨⟨back, hback, hleft⟩, hlast⟩
    obtain ⟨⟨front, hfront, hline⟩, hfirst⟩ := trimLeft_eq_iff.1 hleft
    refine ⟨⟨front, back, hfront, hback, ?_⟩, fun c hc => hfirst c ?_, hlast⟩
    · rw [hline, List.append_assoc]
    · rw [List.head?_append, hc]
      rfl
  · rintro ⟨⟨front, back, hfront, hback, hline⟩, hfirst, hlast⟩
    cases value with
    | nil =>
      -- All that there is are blanks, and all of them are taken away on the left.
      refine ⟨⟨[], rfl, (trimLeft_eq_nil_iff line).2 ?_⟩, hlast⟩
      unfold allBlank at *
      rw [hline, List.append_nil, List.all_append, hfront, hback]
      rfl
    | cons c value =>
      refine ⟨⟨back, hback, trimLeft_eq_iff.2 ⟨⟨front, hfront, ?_⟩, hfirst⟩⟩, hlast⟩
      rw [hline, List.append_assoc]

end Wireframe.Text
