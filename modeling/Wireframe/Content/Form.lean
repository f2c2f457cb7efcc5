import Wireframe.Text.Blank

/-!
# Forms of content

The written forms of elements. A form ends at the end of the content or before a line feed that ends
the content.

The forms are the patterns of `elements`: `bracketed?` is `BUTTON_PATTERN`, `field?` is
`INPUT_PATTERN`, `tickBox?` is `CHECKBOX_PATTERN`, `quotedText?` is `LINK_PATTERN` and `emphasis?`
is `EMPHASIS_PATTERN`.
-/

namespace Wireframe.Form

/-- Whether nothing but at most one line feed is left. -/
def atEnd (rest : Line) : Bool := decide (rest = [] ∨ rest = ['\n'])

/-- The characters up to a line feed, if the content ends there. -/
def restOfLine? (cs : Line) : Option Line :=
  let line := cs.takeWhile (· != '\n')
  if atEnd (cs.drop line.length) then some line else none

/-- What stands on the line behind at least one blank, if that is something. As many blanks are
skipped as leave something. -/
def behindBlanks? (cs : Line) : Option Line :=
  let blanks := (cs.takeWhile Text.isBlank).length
  -- The last blank is tried first as the end of the gap, then the one before it, and so on.
  (List.range blanks).reverse.findSome? fun k =>
    (restOfLine? (cs.drop (k + 1))).filter fun line => !line.isEmpty

/-- The label of a bracketed form, `[label]`, without brackets in the label. -/
def bracketed? : Line → Option Line
  | '[' :: cs =>
    let label := cs.takeWhile fun c => c != '[' && c != ']'
    match cs.drop label.length with
    | ']' :: rest => if atEnd rest then some label else none
    | _ => none
  | _ => none

/-- The text of a quoted form, `"text"`, that is not empty and holds no quotation mark. -/
def quotedText? : Line → Option Line
  | '"' :: cs =>
    let text := cs.takeWhile (· != '"')
    match cs.drop text.length with
    | '"' :: rest => if atEnd rest ∧ text ≠ [] then some text else none
    | _ => none
  | _ => none

/-- Whether a character may begin the name of a field. -/
def isNameStart (c : Char) : Bool := c.isAlpha || c == '_'

/-- Whether a character may stand in the name of a field. -/
def isNameChar (c : Char) : Bool := c.isAlphanum || c == '_' || c == '-'

/-- The name and the placeholder of a field, `#name` or `#name placeholder`. -/
def field? : Line → Option (Line × Option Line)
  | '#' :: c :: cs =>
    if isNameStart c then
      let name := c :: cs.takeWhile isNameChar
      let rest := cs.dropWhile isNameChar
      -- A name ends at the first other character, so what follows it is the end or a blank.
      if atEnd rest then some (name, none)
      else (behindBlanks? rest).map fun placeholder => (name, some placeholder)
    else none
  | _ => none

/-- The mark and the label of a box to tick, `[x] label` or `[ ] label`. -/
def tickBox? : Line → Option (Char × Line)
  | '[' :: mark :: ']' :: rest =>
    if (mark = ' ' ∨ mark = 'x' ∨ mark = 'X') ∧ (rest.head?.any Text.isBlank) = true then
      (restOfLine? (Text.trimLeft rest)).map fun label => (mark, label)
    else none
  | _ => none

/-- The text of an emphasised line, `* text`. -/
def emphasis? : Line → Option Line
  | '*' :: rest => behindBlanks? rest
  | _ => none

end Wireframe.Form
