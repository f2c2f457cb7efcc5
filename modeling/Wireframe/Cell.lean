/-!
# Cells

What stands at one place of a drawing. Four characters draw boxes; a space or a tab is an empty
place; every other character is ordinary.

`Cell.ofChar` is `Cell.classify` of `grid`.
-/

namespace Wireframe

/-- The kinds of places in a drawing. -/
inductive Cell.Kind where
  /-- A corner of a box, `+`. -/
  | corner
  /-- A piece of a horizontal edge, `-`. -/
  | horizontal
  /-- A piece of a vertical edge, `|`. -/
  | vertical
  /-- A piece of a divider, `=`. -/
  | divider
  /-- An empty place. -/
  | space
  /-- Any other character. -/
  | ordinary
  deriving DecidableEq

/-- One place of a drawing. -/
inductive Cell where
  /-- A corner of a box, `+`. -/
  | corner
  /-- A piece of a horizontal edge, `-`. -/
  | horizontal
  /-- A piece of a vertical edge, `|`. -/
  | vertical
  /-- A piece of a divider, `=`. -/
  | divider
  /-- An empty place. -/
  | space
  /-- A character that draws nothing. -/
  | ordinary (c : Char)
  deriving DecidableEq

namespace Cell

/-- The place a character stands for. -/
def ofChar (c : Char) : Cell :=
  if c = '+' then .corner
  else if c = '-' then .horizontal
  else if c = '|' then .vertical
  else if c = '=' then .divider
  else if c = ' ' ∨ c = '\t' then .space
  else .ordinary c

/-- The character of a place. A tab is read as a space. -/
def toChar : Cell → Char
  | .corner => '+'
  | .horizontal => '-'
  | .vertical => '|'
  | .divider => '='
  | .space => ' '
  | .ordinary c => c

/-- The kind of a place. -/
def kind : Cell → Cell.Kind
  | .corner => .corner
  | .horizontal => .horizontal
  | .vertical => .vertical
  | .divider => .divider
  | .space => .space
  | .ordinary _ => .ordinary

/-- A cell keeps its character, but for the tab. -/
theorem toChar_ofChar (c : Char) : (ofChar c).toChar = if c = '\t' then ' ' else c := by
  unfold ofChar
  split
  · next h => simp [toChar, h]
  · split
    · next h => simp [toChar, h]
    · split
      · next h => simp [toChar, h]
      · split
        · next h => simp [toChar, h]
        · split
          · next h => rcases h with h | h <;> simp [toChar, h]
          · next h => simp_all [toChar]

end Cell

end Wireframe
