import Wireframe.Text.Blank

/-!
# Segments

A content line falls into segments: bracketed texts, quoted texts and runs of words with single
spaces between them. What is in no segment is blank.

`Segment.ofLine` finds what `SEGMENT_PATTERN` of `semantic` matches, and `opensControl` asks for one
of `CONTROL_OPENERS`.
-/

namespace Wireframe

/-- A part of a line. -/
structure Segment where
  /-- The number of characters in front of it. -/
  start : Nat
  /-- Its characters. -/
  text : Line
  deriving DecidableEq

namespace Segment

/-- The length of a text between two marks at the start of a line, the marks included. The text in
between holds only accepted characters. Zero if there is none. -/
def enclosed (opening closing : Char) (inside : Char → Bool) : Line → Nat
  | [] => 0
  | c :: cs =>
    if c = opening then
      let n := (cs.takeWhile inside).length
      if cs[n]? = some closing then n + 2 else 0
    else 0

/-- The length of the words at the start of a line that are joined by single spaces. A single space
with a word behind it belongs to them. -/
def words : Line → Nat
  | ' ' :: c :: cs => if Text.isBlank c then 0 else words cs + 2
  | c :: cs => if Text.isBlank c then 0 else words cs + 1
  | [] => 0

/-- The length of the segment at the start of a line. Zero at the end and before a blank. -/
def lengthAt (cs : Line) : Nat :=
  let brackets := enclosed '[' ']' (fun c => c != '[' && c != ']') cs
  let quotes := enclosed '"' '"' (· != '"') cs
  if brackets ≠ 0 then brackets
  else if quotes ≠ 0 then quotes
  else if cs.head?.any fun c => !Text.isBlank c then words cs
  else 0

/-- The segments of a line behind `passed` characters, of which the next `skip` belong to a segment
that was found before. -/
def scan (passed skip : Nat) : Line → List Segment
  | [] => []
  | c :: cs =>
    match skip with
    -- The character belongs to the segment found last.
    | skip + 1 => scan (passed + 1) skip cs
    | 0 => match lengthAt (c :: cs) with
      | 0 => scan (passed + 1) 0 cs
      | n + 1 => ⟨passed, (c :: cs).take (n + 1)⟩ :: scan (passed + 1) n cs

/-- The segments of a line from left to right. -/
def ofLine (line : Line) : List Segment := scan 0 0 line

/-- Whether a segment begins as a bracketed or quoted text does. -/
def opensControl (s : Segment) : Bool := s.text.head?.any fun c => c == '[' || c == '"'

end Segment

end Wireframe
