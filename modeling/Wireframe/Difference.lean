import Wireframe.Keyed
import Wireframe.Sorting
import Wireframe.Text.Decimal

/-!
# Differences

Two drawings compared line by line. Lines that differ are shown one above the other with a caret
under every column in which they differ; lines around them are shown once; longer stretches without
a difference are left out.

`Difference.text` is `visual_diff` of `debug`: `differingColumns` is `changed_columns`, `shownRows`
is `_visible_rows`, `carets` is `_caret_line` and `changeLines` is `_describe_change`.
-/

namespace Wireframe

/-- Two lists side by side. The shorter one is filled up. -/
def pairUp {α : Type} (fill : α) : List α → List α → List (α × α)
  | [], [] => []
  | a :: as, [] => (a, fill) :: pairUp fill as []
  | [], b :: bs => (fill, b) :: pairUp fill [] bs
  | a :: as, b :: bs => (a, b) :: pairUp fill as bs

/-- The places at which two texts differ. A missing character counts as a difference. -/
def differingColumns (before after : Line) : List Nat :=
  let pairs := pairUp none (before.map some) (after.map some)
  (List.range pairs.length).filter fun i => decide (pairs[i]?.any fun (a, b) => a ≠ b)

namespace Difference

/-- The lines of two texts side by side. A line that only one text has stands beside an empty
one. -/
def linePairs (before after : String) : List (Line × Line) :=
  pairUp [] (Text.lines before.toList) (Text.lines after.toList)

/-- The rows in which the lines of a pair differ. -/
def changedRows (pairs : List (Line × Line)) : List Nat :=
  (List.range pairs.length).filter fun i => decide (pairs[i]?.any fun (a, b) => a ≠ b)

/-- The rows that are shown: those within `context` rows of a difference. -/
def shownRows (changed : List Nat) (total : Nat) (context : Int) : List Nat :=
  (List.range total).filter fun row =>
    changed.any fun c => decide ((c : Int) - context ≤ row) && decide ((row : Int) ≤ c + context)

/-- The width of what stands in front of a line. -/
def gutter : Nat := 8

/-- A line with a caret under each of some columns, which are given in growing order. -/
def carets (columns : List Nat) : Line :=
  -- Nothing is written behind the last caret.
  let width := (columns.getLast?.map (· + 1)).getD 0
  List.replicate gutter ' ' ++ (List.range width).map fun c => if c ∈ columns then '^' else ' '

/-- A list of numbers in writing. -/
def listed (ns : List Nat) : String :=
  "[" ++ String.intercalate ", " (ns.map fun (n : Nat) => Text.decimal n) ++ "]"

/-- The number of a row, counted from one. -/
def rowNumber (row : Nat) : Line := Text.padLeft 3 (Text.digits (row + 1))

/-- The lines that show a pair of different lines. At most five columns are listed. -/
def changeLines (row : Nat) (before after : Line) : List Line :=
  let columns := differingColumns before after
  [ rowNumber row ++ ": - |".toList ++ before ++ ['|'],
    "     + |".toList ++ after ++ ['|'],
    carets columns,
    ("     Diff at col(s): " ++ listed ((columns.take 5).map (· + 1)) ++
      if 5 < columns.length then "..." else "").toList ]

/-- The lines that show a pair of lines. -/
def rowLines (row : Nat) (pair : Line × Line) : List Line :=
  if pair.1 = pair.2 then [rowNumber row ++ ":   ".toList ++ pair.2]
  else changeLines row pair.1 pair.2

/-- The mark of rows that are left out. -/
def gap : Line := "...".toList

/-- The lines that show some rows in growing order, where `next` is the row behind those shown
before. Each stretch of rows that are left out is marked. -/
def body (pairs : List (Line × Line)) (next : Nat) : List Nat → List Line
  | [] => if next < pairs.length then [gap] else []
  | row :: rest =>
    (if row ≠ next then [gap] else []) ++ ((pairs[row]?.map (rowLines row)).getD []) ++
      body pairs (row + 1) rest

/-- The lines that show notes, sorted by the line they belong to. -/
def noteLines (notes : List (Int × List String)) : List Line :=
  match notes with
  | [] => []
  | notes =>
    [[], "Notes:".toList] ++
      (sortBy (fun a b => decide (a.1 ≤ b.1)) notes).flatMap fun (line, texts) =>
        texts.map fun text => ("  line " ++ Text.decimal line ++ ": " ++ text).toList

/-- A line that rules off the heading. -/
def rule : Line := List.replicate 60 '='

/-- The heading. -/
def heading : List Line := [rule, "VISUAL DIFF".toList, rule]

/-- The lines of a comparison. -/
def lines (before after : String) (context : Int) (notes : List (Int × List String)) : List Line :=
  let pairs := linePairs before after
  let changed := changedRows pairs
  if changed = [] then heading ++ ["No differences found.".toList]
  else
    heading ++ [("Found " ++ Text.decimal changed.length ++ " differing line(s)").toList, []] ++
      body pairs 0 (shownRows changed pairs.length context) ++ noteLines notes

/-- A comparison of two drawings, with notes under the lines they belong to. -/
def text (before after : String) (context : Int) (notes : List (Int × List String)) : String :=
  Text.block (lines before after context notes)

end Difference

end Wireframe
