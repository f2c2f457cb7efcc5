import Wireframe.Grid
import Wireframe.Keyed
import Wireframe.Scalar
import Wireframe.Sorting

/-!
# Traces

A record of the work on a document: what was known after each stage, and what became of each corner
that was tried. A record can be searched and printed.

`Trace`, `Trace.Stage` and `Trace.Attempt` are `ParseTrace`, `PipelineStage` and `TraceAttempt` of
`tracer`.
-/

namespace Wireframe

/-- A value in a record. -/
inductive Datum where
  /-- A simple value. -/
  | scalar (s : Scalar)
  /-- Several values. -/
  | list (items : List Datum)

namespace Datum

/-- A number in a record. -/
def number (n : Int) : Datum := .scalar (.number n)

/-- A text in a record. -/
def text (s : String) : Datum := .scalar (.text s)

mutual

/-- A value in writing, texts between quotation marks. -/
def quoted : Datum → String
  | .scalar s => s.quoted
  | .list items => "[" ++ String.intercalate ", " (quotedAll items) ++ "]"

/-- Several values in writing. -/
def quotedAll : List Datum → List String
  | [] => []
  | d :: rest => quoted d :: quotedAll rest

end

/-- A value in writing, a text as it is. Texts inside a list are between quotation marks. -/
def shown : Datum → String
  | .scalar s => s.shown
  | d => d.quoted

end Datum

namespace Trace

/-- What was known after a stage. -/
structure Stage where
  /-- The name of the stage. -/
  name : String
  /-- Values under their names. -/
  data : List (String × Datum)
  /-- The lines of the drawing at that time, if one was recorded. -/
  lines : Option (List String)

/-- What became of a corner that was tried. -/
structure Attempt where
  /-- The scene the corner belongs to. -/
  scene : String
  /-- The line of the corner, counted from zero. -/
  row : Int
  /-- The column of the corner, counted from zero. -/
  col : Int
  /-- What became of it, in a word. -/
  outcome : String
  /-- The rectangle that was found, or what is wrong. -/
  reason : String
  deriving DecidableEq

namespace Stage

/-- The lines of a drawing for a record. A drawing that renders as nothing has none. -/
def linesOf (g : Grid) : List String :=
  let lines := g.trimmedLines
  if Text.unlines lines = [] then [] else lines.map String.ofList

/-- A stage with its values; of values with one name the last counts. -/
def make (name : String) (data : List (String × Datum)) (grid : Option Grid) : Stage :=
  ⟨name, Keyed.ofPairs data, grid.map linesOf⟩

/-- The recorded lines of the drawing, if there are any. -/
def drawing? (s : Stage) : Option (List String) := s.lines.filter fun lines => !lines.isEmpty

/-- A value shortened to a hundred characters. -/
def preview (value : String) : String :=
  if 100 < value.length then String.ofList (value.toList.take 100) ++ "..." else value

/-- A stage in writing. Of a drawing the first fifteen lines are shown. -/
def textLines (s : Stage) : List String :=
  ["=== Stage: " ++ s.name ++ " ==="] ++
    s.data.map (fun (key, value) => "  " ++ key ++ ": " ++ preview value.shown) ++
    match s.drawing? with
    | some lines =>
      "  Grid preview (first 15 rows):" :: (lines.take 15).map fun line => "    |" ++ line ++ "|"
    | none => []

/-- A stage in writing. -/
def text (s : Stage) : String := String.intercalate "\n" s.textLines

end Stage

namespace Attempt

/-- An attempt in writing. -/
def text (a : Attempt) : String :=
  "[" ++ a.scene ++ "] " ++ (Position.mk a.row a.col).text ++ ": " ++ a.outcome ++
    " [" ++ a.reason ++ "]"

end Attempt

end Trace

/-- A record of the work on a document. -/
structure Trace where
  /-- The text of the document. -/
  input : String
  /-- The stages in their order. -/
  stages : List Trace.Stage
  /-- The corners in the order in which they were tried. -/
  attempts : List Trace.Attempt

namespace Trace

/-- A record of nothing. -/
def start (input : String) : Trace := ⟨input, [], []⟩

/-- The record with one more stage. -/
def addStage (t : Trace) (s : Stage) : Trace := { t with stages := t.stages ++ [s] }

/-- The record with one more attempt. -/
def addAttempt (t : Trace) (a : Attempt) : Trace := { t with attempts := t.attempts ++ [a] }

/-- The first stage of a name. -/
def stage? (t : Trace) (name : String) : Option Stage :=
  t.stages.find? fun s => decide (s.name = name)

/-- The drawing at the first stage of a name. -/
def drawing? (t : Trace) (name : String) : Option (List String) := (t.stage? name).bind (·.drawing?)

/-- The attempts at a place. -/
def attemptsAt (t : Trace) (row col : Int) : List Attempt :=
  t.attempts.filter fun a => decide (a.row = row) && decide (a.col = col)

/-- The attempts with an outcome. -/
def attemptsBy (t : Trace) (outcome : String) : List Attempt :=
  t.attempts.filter fun a => decide (a.outcome = outcome)

/-- The outcomes with the numbers of their attempts, more frequent ones first and those equally
frequent in the order of their first attempt. -/
def outcomes (t : Trace) : List (String × Nat) :=
  -- Each outcome once, in the order of its first attempt.
  let names := Keyed.ofPairs (t.attempts.map fun a => (a.outcome, ()))
  sortBy (fun a b => decide (b.2 ≤ a.2))
    (names.map fun (outcome, _) => (outcome, (t.attemptsBy outcome).length))

/-- A line that rules off a section. -/
def rule : String := String.ofList (List.replicate 60 '=')

/-- A line that rules off a part of a section. -/
def thinRule : String := String.ofList (List.replicate 40 '-')

/-- An overview of the record. -/
def summaryLines (t : Trace) : List String :=
  let shortened := if 100 < t.input.length then "..." else ""
  [rule, "PARSE TRACE SUMMARY", rule, "",
    "Input: " ++ Text.quoted (String.ofList (t.input.toList.take 100)) ++ shortened, "",
    "Pipeline stages: " ++ Text.decimal t.stages.length] ++
  t.stages.map (fun s => "  [" ++ (if s.drawing?.isSome then "+" else "-") ++ "] " ++ s.name) ++
  ["", "Corners traced: " ++ Text.decimal t.attempts.length, "", "Attempts by outcome:"] ++
  t.outcomes.map fun (outcome, count) => "  " ++ outcome ++ ": " ++ Text.decimal count

/-- An overview of the record. -/
def summary (t : Trace) : String := String.intercalate "\n" t.summaryLines

/-- The whole record. -/
def dump (t : Trace) : String :=
  String.intercalate "\n" (
    [t.summary, "", rule, "DETAILED TRACE", rule, "", "PIPELINE STAGES:", thinRule] ++
    t.stages.flatMap (fun s => [s.text, ""]) ++
    ["TRACE ATTEMPTS:", thinRule] ++
    t.attempts.map (·.text))

end Trace

end Wireframe
