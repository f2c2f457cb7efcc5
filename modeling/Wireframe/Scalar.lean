import Wireframe.Text.Quoted

/-!
# Scalars

The simple values that occur as details of diagnostics, as properties of elements and in records of
a parse.
-/

namespace Wireframe

/-- A simple value. -/
inductive Scalar where
  /-- A text. -/
  | text (s : String)
  /-- An integer. -/
  | number (n : Int)
  /-- A truth value. -/
  | flag (b : Bool)
  /-- No value. -/
  | absent
  deriving DecidableEq

namespace Scalar

/-- The integer a value counts as. A truth value counts as one or zero. -/
def numeric? : Scalar → Option Int
  | .number n => some n
  | .flag b => some (if b then 1 else 0)
  | _ => none

/-- A value in writing, a text as it is. -/
def shown : Scalar → String
  | .text s => s
  | .number n => Text.decimal n
  | .flag b => if b then "True" else "False"
  | .absent => "None"

/-- A value in writing, a text between quotation marks. -/
def quoted : Scalar → String
  | .text s => Text.quoted s
  | s => s.shown

/-- Equality of values, where a truth value equals the integer it counts as. -/
def same (a b : Scalar) : Bool :=
  decide (a = b) || (a.numeric?.isSome && decide (a.numeric? = b.numeric?))

end Scalar

end Wireframe
