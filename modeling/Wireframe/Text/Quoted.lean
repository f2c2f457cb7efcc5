import Wireframe.Text.Decimal
import Wireframe.Text.Printable

/-!
# Quoted text

A text between quotation marks, on one line and readable back. Single quotes are used unless the
text holds a single quote and no double one. The quote in use, the backslash, the line feed, the
carriage return and the tab are escaped by a backslash; any other character that is not printable
is written by its code point, in the shortest of the three forms that holds it.
-/

namespace Wireframe.Text

/-- The single quotation mark. -/
def singleQuote : Char := Char.ofNat 0x27

/-- The double quotation mark. -/
def doubleQuote : Char := Char.ofNat 0x22

/-- The backslash. -/
def backslash : Char := Char.ofNat 0x5C

/-- The quotation mark that is put around a text. -/
def quoteFor (cs : List Char) : Char :=
  if singleQuote ∈ cs ∧ doubleQuote ∉ cs then doubleQuote else singleQuote

/-- A number in hexadecimal with lower case letters and at least `width` digits. -/
def hexadecimal (width n : Nat) : List Char :=
  let ds := Nat.toDigits 16 n
  List.replicate (width - ds.length) '0' ++ ds

/-- A character by its code point. -/
def escapeCode (c : Char) : List Char :=
  let n := c.toNat
  if n < 0x100 then backslash :: 'x' :: hexadecimal 2 n
  else if n < 0x10000 then backslash :: 'u' :: hexadecimal 4 n
  else backslash :: 'U' :: hexadecimal 8 n

/-- A character as it is written between two marks `quote`. -/
def escapeIn (quote c : Char) : List Char :=
  if c = quote ∨ c = backslash then [backslash, c]
  else if c = '\n' then [backslash, 'n']
  else if c = '\r' then [backslash, 'r']
  else if c = '\t' then [backslash, 't']
  else if isPrintable c then [c]
  else escapeCode c

/-- A text between quotation marks. -/
def quoteChars (cs : List Char) : List Char :=
  let quote := quoteFor cs
  quote :: cs.flatMap (escapeIn quote) ++ [quote]

/-- A string between quotation marks. -/
def quoted (s : String) : String := String.ofList (quoteChars s.toList)

end Wireframe.Text
