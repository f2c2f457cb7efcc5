import Wireframe.Analysis
import Wireframe.Trace

/-!
# The record of an analysis

What an analysis found out, as a record: a stage after each step of the work, and an attempt for
each corner that was tried, in the lines of the document.

The record is the `ParseTrace` that `WireframeParser.parse` keeps when it is asked to, and
`BlockAnalysis.attempts` is `_record_attempts`.
-/

namespace Wireframe

namespace BlockAnalysis

/-- What became of a corner of a block. -/
def attempt (a : BlockAnalysis) (o : Outline) : Trace.Attempt :=
  let row := o.start.row + a.block.offset
  match o.outcome with
  | .ok box => ⟨a.block.sceneId, row, o.start.col, "box", (box.bounds.shifted a.block.offset).text⟩
  | .error problems =>
    if o.start ∈ a.detection.suppressed then
      ⟨a.block.sceneId, row, o.start.col, "suppressed", "corner belongs to another box"⟩
    else
      ⟨a.block.sceneId, row, o.start.col, "error",
        String.intercalate ", " (problems.map (·.kind.name))⟩

/-- The attempts at the corners of a block. -/
def attempts (a : BlockAnalysis) : List Trace.Attempt := a.detection.outlines.map a.attempt

/-- The stages of the work on a block. -/
def stages (a : BlockAnalysis) : List Trace.Stage :=
  let id := a.block.sceneId
  let offset : Int := a.block.offset
  [ .make ("grid:" ++ id)
      [("width", .number a.grid.width), ("height", .number a.grid.height),
        ("line_offset", .number offset)] (some a.grid),
    .make ("shapes:" ++ id)
      [("boxes", .list (a.detection.boxes.map fun box => .text (box.bounds.shifted offset).text)),
        ("errors", .number a.detection.problems.length)] none,
    .make ("hierarchy:" ++ id)
      [("roots", .number a.hierarchy.trees.length),
        ("overlaps", .number a.hierarchy.errors.length),
        ("warnings", .number a.hierarchy.warnings.length)] none,
    .make ("elements:" ++ id)
      [("elements", .number a.scene.elements.length), ("title", .text a.scene.title),
        ("transition", .text a.scene.transition), ("device", .text a.scene.device)] none ]

end BlockAnalysis

namespace Analysis

/-- The stages before any block is looked at. -/
def firstStages (a : Analysis) : List Trace.Stage :=
  [ .make "normalize"
      [("lines", .number a.lines.length), ("tab_lines", .number a.tabProblems.length)] none,
    .make "split_scenes"
      [("scenes", .list (a.blocks.map fun b => .text b.block.sceneId)),
        ("offsets", .list (a.blocks.map fun b => .number b.block.offset))] none ]

/-- The stage after interactions are attached, if any were given. -/
def lastStages (a : Analysis) : List Trace.Stage :=
  match a.interactions with
  | some i =>
    [ .make "interactions"
        [("interactions", .number i.interactions.length),
          ("errors", .number (i.readProblems.length + i.merge.problems.length))] none ]
  | none => []

/-- The record of an analysis of a text. -/
def record (a : Analysis) (text : String) : Trace where
  input := text
  stages := a.firstStages ++ a.blocks.flatMap (·.stages) ++ a.lastStages
  attempts := a.blocks.flatMap (·.attempts)

end Analysis

end Wireframe
