import Wireframe.Config
import Wireframe.Content
import Wireframe.Nesting

/-!
# Analysis

All that is found out about a document: its scene blocks with their boxes, the nesting of the boxes,
the scenes, and the problems. What a reader of the document is told and what a record of the work
shows are both taken from here.

`Analysis.ofText` is the work of `WireframeParser.parse` of `parser`, up to the result;
`repeatedIds` is its `_check_scene_ids`.
-/

namespace Wireframe

/-- What is found out about one scene block. -/
structure BlockAnalysis where
  /-- The block. -/
  block : Scene.Block
  /-- Its lines as a drawing. -/
  grid : Grid
  /-- The boxes in the drawing. -/
  detection : Detection
  /-- The nesting of the boxes. -/
  hierarchy : Hierarchy
  /-- The scene. -/
  scene : Scene
  /-- The problems in the content of boxes. -/
  contentProblems : List Diagnostic

namespace BlockAnalysis

/-- What is found out about a scene block. -/
def ofBlock (config : Config) (block : Scene.Block) : BlockAnalysis :=
  let grid := Grid.ofLines block.lines
  let detection := grid.detect config.radius
  let hierarchy := Hierarchy.ofBoxes config.maxNesting detection.boxes
  let reader : Reader := ⟨grid, block.offset, config.recognizers⟩
  let (scene, contentProblems) := reader.scene block hierarchy.trees
  { block, grid, detection, hierarchy, scene, contentProblems }

/-- The analysis of a block whose boxes overlap, with a scene made of all its boxes side by side. An
analysis without overlaps stays as it is. -/
def flattened (recognizers : List Recognizer) (a : BlockAnalysis) : BlockAnalysis :=
  if a.hierarchy.errors = [] then a
  else
    let reader : Reader := ⟨a.grid, a.block.offset, recognizers⟩
    let (scene, contentProblems) := reader.scene a.block (a.detection.boxes.map BoxTree.leaf)
    { a with scene, contentProblems }

/-- The problems of a block, placed in the document. -/
def diagnostics (a : BlockAnalysis) : List Diagnostic :=
  let offset : Int := a.block.offset
  a.detection.problems.map (·.shifted offset) ++ a.hierarchy.errors.map (·.shifted offset) ++
    a.hierarchy.warnings.map (·.shifted offset) ++ a.contentProblems

end BlockAnalysis

/-- What became of a text of interactions. -/
structure InteractionAnalysis where
  /-- The interactions that were read. -/
  interactions : List Interaction
  /-- The problems in reading them. -/
  readProblems : List Diagnostic
  /-- What attaching them gave. -/
  merge : Merge

/-- What is found out about a document. -/
structure Analysis where
  /-- The lines of the document, with line ends unified. -/
  lines : List Line
  /-- The tabs. -/
  tabProblems : List Diagnostic
  /-- The scene blocks. -/
  blocks : List BlockAnalysis
  /-- The identifiers that are given to several scenes. -/
  idProblems : List Diagnostic
  /-- The interactions, if any were given. -/
  interactions : Option InteractionAnalysis

namespace Analysis

/-- The problem with a line that holds a tab. -/
def tabProblem? (row : Nat) (line : Line) : Option Diagnostic :=
  if '\t' ∈ line then some (.unusualSpacing ⟨row, line.idxOf '\t'⟩ (String.ofList line)) else none

/-- One problem for each line that holds a tab. -/
def tabsIn (lines : List Line) : List Diagnostic :=
  lines.zipIdx.filterMap fun (line, row) => tabProblem? row line

/-- One problem for each scene whose identifier was seen before, given those seen with the place
where they were seen first. -/
def repeatedIds (seen : List (String × Position)) : List Scene → List Diagnostic
  | [] => []
  | s :: rest =>
    let p : Position := ⟨s.line, 0⟩
    match seen.lookup s.id with
    | some first => .duplicateSceneId s.id p first :: repeatedIds seen rest
    | none => repeatedIds (seen ++ [(s.id, p)]) rest

/-- The lines of a document. -/
def linesOf (text : String) : List Line := Text.lines (Text.unifyNewlines text.toList)

/-- The scene blocks of a document. -/
def blocksOf (text : String) : List Scene.Block :=
  Scene.Block.ofText (Text.unifyNewlines text.toList)

/-- What is found out about a document. Interactions are given together with what reads them. -/
def ofText (config : Config) (text : String) (interactions : Option (InteractionReader × String)) :
    Analysis :=
  let lines := linesOf text
  let blocks := (blocksOf text).map (BlockAnalysis.ofBlock config)
  let scenes := blocks.map (·.scene)
  { lines
    tabProblems := tabsIn lines
    blocks
    idProblems := repeatedIds [] scenes
    interactions := interactions.map fun (reader, text) =>
      let (interactions, readProblems) := Interaction.readText reader text
      ⟨interactions, readProblems, (Document.mk scenes).merge interactions⟩ }

/-- The scenes as they are drawn. -/
def scenes (a : Analysis) : List Scene := a.blocks.map (·.scene)

/-- The document, with interactions attached if any were given. -/
def document (a : Analysis) : Document :=
  match a.interactions with
  | some i => i.merge.document
  | none => ⟨a.scenes⟩

/-- All problems, in the order in which they were found. -/
def diagnostics (a : Analysis) : List Diagnostic :=
  a.tabProblems ++ a.blocks.flatMap (·.diagnostics) ++ a.idProblems ++
    match a.interactions with
    | some i => i.readProblems ++ i.merge.problems
    | none => []

end Analysis

end Wireframe
