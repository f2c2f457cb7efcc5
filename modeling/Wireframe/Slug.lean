import Wireframe.Text.Casing

/-!
# Slugs

Identifiers made from text: the runs of small letters and digits of the text in lower case, with a
dash between neighbours.

`slug` is `slugify` of `elements`.
-/

namespace Wireframe

/-- Whether a character may stand in a slug beside the dashes. -/
def isSlugChar (c : Char) : Bool :=
  (decide ('a' ≤ c) && decide (c ≤ 'z')) || (decide ('0' ≤ c) && decide (c ≤ '9'))

/-- Words put together with a dash between neighbours. -/
def hyphenate : List Line → Line
  | [] => []
  | [word] => word
  | word :: next :: rest => word ++ '-' :: hyphenate (next :: rest)

/-- The runs of small letters and digits in a line. -/
def slugWords (line : Line) : List Line :=
  (Text.pieces (fun c => !isSlugChar c) line).filter fun word => !word.isEmpty

/-- The slug of a line; empty if the line has no letter or digit that a slug may hold. -/
def slugLine (line : Line) : Line := hyphenate (slugWords (Text.lowerLine line))

/-- The slug of a text. -/
def slug (text : String) : String := String.ofList (slugLine text.toList)

end Wireframe
