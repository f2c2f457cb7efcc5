import Wireframe.Proofs.Blocks
import Wireframe.Proofs.Checked.Content
import Wireframe.Proofs.Checked.Nesting
import Wireframe.Proofs.Checked.Outline
import Wireframe.Proofs.Checked.Report
import Wireframe.Proofs.Scenes
import Wireframe.Session

/-!
# Texts are read without a failure

Reading a text, step by step, with each step failing outside of its domain: all that is found out
about it, the problems at their place in the text, and the record of the work if one is asked for.
It never fails and gives what reading gives (`parse_eq`).
-/

namespace Wireframe

namespace Checked

/-! ## Lines and blocks -/

/-- Where a character first occurs in a line. -/
def indexOf (c : Char) (line : Line) : Except Failure Nat :=
  if line.idxOf c < line.length then return line.idxOf c else .error (.character c)

/-- The problem with a line that holds a tab. -/
def tabProblem? (row : Nat) (line : Line) : Except Failure (Option Diagnostic) := do
  if '\t' ∈ line then
    let col ← indexOf '\t' line
    return some (.unusualSpacing ⟨row, col⟩ (String.ofList line))
  else return none

/-- One problem for each line that holds a tab. -/
def tabsIn (lines : List Line) : Except Failure (List Diagnostic) := do
  let found ← lines.zipIdx.mapM fun (line, row) => tabProblem? row line
  return found.filterMap id

/-- Tabs are found without a failure. -/
theorem tabsIn_eq (lines : List Line) : tabsIn lines = .ok (Analysis.tabsIn lines) := by
  have hline : ∀ entry ∈ lines.zipIdx, (fun (line, row) => tabProblem? row line) entry =
      .ok (Analysis.tabProblem? entry.2 entry.1) := by
    rintro ⟨line, row⟩ -
    dsimp only
    unfold tabProblem? Analysis.tabProblem?
    split
    · next htab =>
      rw [indexOf, if_pos (List.idxOf_lt_length_iff.2 htab)]
      rfl
    · rfl
  rw [tabsIn, mapM_eq_ok hline, ok_bind, pure_eq, List.filterMap_map]
  rfl

/-- The scene blocks of a text. -/
def blocksOf (text : List Char) : Except Failure (List Scene.Block) := do
  let blocks := Scene.Block.ofLines (Text.lines text)
  match blocks.filter fun b => !b.isEmpty with
  | [] =>
    let first ← entry blocks 0
    return [first]
  | filled => return filled

/-- A text has a first block, also if nothing is in it. -/
theorem blocksOf_eq (text : List Char) : blocksOf text = .ok (Scene.Block.ofText text) := by
  obtain ⟨first, rest, hblocks⟩ := List.exists_cons_of_ne_nil
    (Scene.Block.split_ne_nil (.startingAt 0) 0 (Text.lines text))
  have hlines : Scene.Block.ofLines (Text.lines text) = first :: rest := hblocks
  have hfirst : entry (first :: rest) 0 = .ok first := entry_eq (k := 0) rfl
  unfold blocksOf Scene.Block.ofText
  dsimp only
  rw [hlines]
  cases (first :: rest).filter fun b => !b.isEmpty with
  | nil =>
    dsimp only
    rw [hfirst]
    rfl
  | cons b filled => rfl

/-! ## Blocks -/

/-- What is found out about a scene block, with the graph of parents and children put in order by a
given function, and distances in it measured by another one. -/
def block (sort : Graph.Sorter) (distances : Graph.Meter) (config : Config) (b : Scene.Block) :
    Except Failure BlockAnalysis := do
  let grid := Grid.ofLines b.lines
  let detection ← detect grid config.radius
  let hierarchy ← nesting sort distances config.maxNesting detection.boxes
  let reader : Reader := ⟨grid, b.offset, config.recognizers⟩
  let (scene, contentProblems) ← scene reader b hierarchy.trees
  return { block := b, grid, detection, hierarchy, scene, contentProblems }

variable {sort : Graph.Sorter} {distances : Graph.Meter}

/-- A block is read without a failure. -/
theorem block_eq (hsort : Graph.Sorts sort) (hdistances : Graph.Measures distances)
    (config : Config) (b : Scene.Block) :
    block sort distances config b = .ok (.ofBlock config b) := by
  have hvalid : ∀ box ∈ ((Grid.ofLines b.lines).detect config.radius).boxes, box.bounds.Valid :=
    fun box hbox => (Grid.draws_of_mem_detect hbox).valid
  have htrees : ∀ box ∈ BoxTree.boxesOfAll (BlockAnalysis.ofBlock config b).hierarchy.trees,
      box.bounds.Valid := fun box hbox =>
    hvalid box ((BlockAnalysis.boxes_trees_perm config b).mem_iff.1 hbox)
  rw [block, detect_eq, ok_bind, nesting_eq hsort hdistances config.maxNesting hvalid, ok_bind]
  have hscene := scene_eq (r := ⟨Grid.ofLines b.lines, b.offset, config.recognizers⟩) b htrees
  unfold BlockAnalysis.ofBlock at hscene
  dsimp only at hscene ⊢
  rw [hscene]
  rfl

/-- The problems of a block, placed in the document. -/
def problems (a : BlockAnalysis) : Except Failure (List Diagnostic) := do
  let offset : Int := a.block.offset
  let found ← a.detection.problems.mapM (shifted offset)
  let errors ← a.hierarchy.errors.mapM (shifted offset)
  let warnings ← a.hierarchy.warnings.mapM (shifted offset)
  return found ++ errors ++ warnings ++ a.contentProblems

/-- The problems of a block are placed in the document without a failure. -/
theorem problems_eq (config : Config) (b : Scene.Block) :
    problems (.ofBlock config b) = .ok (BlockAnalysis.ofBlock config b).diagnostics := by
  have hmoved : ∀ {ds : List Diagnostic}, (∀ d ∈ ds, d.Complete) → ∀ offset : Int,
      ds.mapM (shifted offset) = .ok (ds.map (·.shifted offset)) :=
    fun hds offset => mapM_eq_ok fun d hd => shifted_eq (hds d hd) offset
  have hfound : ∀ d ∈ (BlockAnalysis.ofBlock config b).detection.problems, d.Complete :=
    fun d hd => (Grid.fault_of_mem_detect hd).complete
  have hwarnings : ∀ d ∈ (BlockAnalysis.ofBlock config b).hierarchy.warnings, d.Complete :=
    fun d hd => Nesting.complete_of_mem_depthWarnings hd
  -- Boxes of a drawing never overlap, so no rectangles are moved here.
  have herrors : (BlockAnalysis.ofBlock config b).hierarchy.errors = [] :=
    Grid.errors_ofBoxes_detect _ _ _
  rw [problems, hmoved hfound, ok_bind, herrors, hmoved (by simp), ok_bind, hmoved hwarnings,
    ok_bind, pure_eq, BlockAnalysis.diagnostics, herrors]

/-- A step that is taken for every block of a text succeeds if it does for each block. -/
theorem mapM_blocks {β : Type} {config : Config} {text : String}
    {f : BlockAnalysis → Except Failure β} {g : BlockAnalysis → β}
    (h : ∀ b, f (.ofBlock config b) = .ok (g (.ofBlock config b))) :
    (Analysis.ofText config text none).blocks.mapM f =
      .ok ((Analysis.ofText config text none).blocks.map g) := by
  refine mapM_eq_ok fun a ha => ?_
  obtain ⟨b, -, rfl⟩ := List.mem_map.1 ha
  exact h b

/-! ## Repeated identifiers -/

/-- One problem for each scene whose identifier was seen before. -/
def repeatedIds (seen : List (String × Position)) :
    List Scene → Except Failure (List Diagnostic)
  | [] => return []
  | s :: rest => do
    let p : Position := ⟨s.line, 0⟩
    -- The place of an identifier is only asked for if it was seen.
    if s.id ∈ seen.map Prod.fst then
      let first ← value seen s.id
      let found ← repeatedIds seen rest
      return .duplicateSceneId s.id p first :: found
    else repeatedIds (seen ++ [(s.id, p)]) rest

/-- Repeated identifiers are found without a failure. -/
theorem repeatedIds_eq (seen : List (String × Position)) (scenes : List Scene) :
    repeatedIds seen scenes = .ok (Analysis.repeatedIds seen scenes) := by
  induction scenes generalizing seen with
  | nil => rfl
  | cons s rest ih =>
    have hseen : s.id ∈ seen.map Prod.fst ↔ (seen.lookup s.id).isSome = true := by
      rw [List.lookup_isSome_iff, List.mem_map]
      exact exists_congr fun known => and_congr_right fun _ => by rw [beq_iff_eq, eq_comm]
    rw [repeatedIds, Analysis.repeatedIds]
    cases hknown : seen.lookup s.id with
    | none =>
      rw [if_neg (by simp [hseen, hknown])]
      exact ih _
    | some first =>
      rw [if_pos (by simp [hseen, hknown]), value_eq hknown, ok_bind, ih, ok_bind]
      rfl

/-! ## The record -/

/-- What became of a corner of a block. Only a rectangle has to be moved. -/
def attempt (a : BlockAnalysis) (o : Outline) : Except Failure Trace.Attempt :=
  match o.outcome with
  | .ok box => do
    let bounds ← shiftedBounds a.block.offset box.bounds
    return ⟨a.block.sceneId, o.start.row + a.block.offset, o.start.col, "box", bounds.text⟩
  | .error _ => return a.attempt o

/-- The stages of the work on a block. -/
def stages (a : BlockAnalysis) : Except Failure (List Trace.Stage) := do
  let id := a.block.sceneId
  let offset : Int := a.block.offset
  let rectangles ← a.detection.boxes.mapM fun box => shiftedBounds offset box.bounds
  return [ .make ("grid:" ++ id)
      [("width", .number a.grid.width), ("height", .number a.grid.height),
        ("line_offset", .number offset)] (some a.grid),
    .make ("shapes:" ++ id)
      [("boxes", .list (rectangles.map fun b => .text b.text)),
        ("errors", .number a.detection.problems.length)] none,
    .make ("hierarchy:" ++ id)
      [("roots", .number a.hierarchy.trees.length),
        ("overlaps", .number a.hierarchy.errors.length),
        ("warnings", .number a.hierarchy.warnings.length)] none,
    .make ("elements:" ++ id)
      [("elements", .number a.scene.elements.length), ("title", .text a.scene.title),
        ("transition", .text a.scene.transition), ("device", .text a.scene.device)] none ]

/-- An attempt at a corner is recorded without a failure. -/
theorem attempts_eq (config : Config) (b : Scene.Block) :
    (BlockAnalysis.ofBlock config b).detection.outlines.mapM
        (attempt (.ofBlock config b)) = .ok (BlockAnalysis.ofBlock config b).attempts := by
  refine mapM_eq_ok fun o ho => ?_
  have houtline : o ∈ ((Grid.ofLines b.lines).detect config.radius).outlines := ho
  rw [Grid.detect, Detection.outlines_ofOutlines] at houtline
  obtain ⟨p, hp, rfl⟩ := List.mem_map.1 houtline
  unfold attempt BlockAnalysis.attempt
  cases hok : ((Grid.ofLines b.lines).outline config.radius p).outcome with
  | error problems => rfl
  | ok box =>
    dsimp only
    rw [shiftedBounds_eq (Grid.draws_of_outline_ok hp hok).1.valid]
    rfl

/-- The stages of the work on a block are recorded without a failure. -/
theorem stages_eq (config : Config) (b : Scene.Block) :
    stages (.ofBlock config b) = .ok (BlockAnalysis.ofBlock config b).stages := by
  have hrectangles : (BlockAnalysis.ofBlock config b).detection.boxes.mapM (fun box =>
      shiftedBounds (BlockAnalysis.ofBlock config b).block.offset box.bounds) =
        .ok ((BlockAnalysis.ofBlock config b).detection.boxes.map fun box =>
          box.bounds.shifted (BlockAnalysis.ofBlock config b).block.offset) :=
    mapM_eq_ok fun box hbox => shiftedBounds_eq (Grid.draws_of_mem_detect hbox).valid _
  rw [stages, hrectangles, ok_bind, pure_eq, BlockAnalysis.stages, List.map_map]
  rfl

/-- The record of an analysis of a text without interactions. -/
def record (a : Analysis) (text : String) : Except Failure Trace := do
  let attempts ← a.blocks.mapM fun b => b.detection.outlines.mapM (attempt b)
  let stages ← a.blocks.mapM stages
  return ⟨text, a.firstStages ++ stages.flatten ++ a.lastStages, attempts.flatten⟩

/-- The work on a text is recorded without a failure. -/
theorem record_eq (config : Config) (text : String) :
    record (.ofText config text none) text =
      .ok ((Analysis.ofText config text none).record text) := by
  rw [record, mapM_blocks (attempts_eq config), ok_bind, mapM_blocks (stages_eq config), ok_bind,
    pure_eq, Analysis.record, List.flatMap_def, List.flatMap_def]

/-! ## Texts -/

/-- What is found out about a text. -/
def analysis (sort : Graph.Sorter) (distances : Graph.Meter) (config : Config) (text : String) :
    Except Failure Analysis := do
  let source := Text.unifyNewlines text.toList
  let lines := Text.lines source
  let tabProblems ← tabsIn lines
  let found ← blocksOf source
  let blocks ← found.mapM (block sort distances config)
  let idProblems ← repeatedIds [] (blocks.map (·.scene))
  return { lines, tabProblems, blocks, idProblems, interactions := none }

/-- The document that a text describes, with a record of the work if one is asked for. -/
def parse (sort : Graph.Sorter) (distances : Graph.Meter) (config : Config) (text : String)
    (debug : Bool) : Except Failure (Parsed × Option Trace) := do
  let a ← analysis sort distances config text
  let found ← a.blocks.mapM problems
  let trace ← if debug then some <$> record a text else pure none
  let (errors, warnings) := bySeverity (a.tabProblems ++ found.flatten ++ a.idProblems)
  return (⟨if errors = [] then some a.document else none, errors, warnings⟩, trace)

/-- All is found out about a text without a failure. -/
theorem analysis_eq (hsort : Graph.Sorts sort) (hdistances : Graph.Measures distances)
    (config : Config) (text : String) :
    analysis sort distances config text = .ok (.ofText config text none) := by
  rw [analysis, tabsIn_eq, ok_bind, blocksOf_eq, ok_bind,
    mapM_eq_ok fun b _ => block_eq hsort hdistances config b, ok_bind, repeatedIds_eq, ok_bind,
    pure_eq]
  rfl

/-- A text is read without a failure. -/
theorem parse_eq (hsort : Graph.Sorts sort) (hdistances : Graph.Measures distances)
    (config : Config) (text : String) (debug : Bool) :
    parse sort distances config text debug = .ok (config.parseText text,
      if debug then some ((Analysis.ofText config text none).record text) else none) := by
  -- Without interactions there are no problems behind those with identifiers.
  have hdiagnostics : (Analysis.ofText config text none).tabProblems ++
      ((Analysis.ofText config text none).blocks.map (·.diagnostics)).flatten ++
        (Analysis.ofText config text none).idProblems =
          (Analysis.ofText config text none).diagnostics := by
    rw [Analysis.diagnostics, List.flatMap_def]
    exact (List.append_nil _).symm
  rw [parse, analysis_eq hsort hdistances, ok_bind, mapM_blocks (problems_eq config), ok_bind,
    hdiagnostics]
  cases debug with
  | false => rfl
  | true =>
    rw [if_pos rfl, record_eq]
    rfl

end Checked

/-- Under settings without a negative number any text gives a result, and no step on the way is
impossible: each rectangle has its edges the right way round, each list has the entries that are
taken out of it, and the boxes inside each other make up a graph without a cycle, which can be put
in order, and in which each box has a distance from its root. The message and all reports of every
problem can be made, also after the problem was moved. -/
theorem Config.parse_never_fails {sort : Graph.Sorter} {distances : Graph.Meter}
    (hsort : Graph.Sorts sort) (hdistances : Graph.Measures distances)
    {maxNesting radius : Int} (hnesting : 0 ≤ maxNesting) (hradius : 0 ≤ radius)
    (interactions : Option InteractionReader) (recognizers : List Recognizer) (text : String)
    (debug : Bool) :
    ∃ config result trace,
      make maxNesting radius interactions recognizers = .ok config ∧
      (Session.start config).parse text none debug = .ok (result, ⟨config, trace⟩) ∧
      Checked.parse sort distances config text debug = .ok (result, trace) ∧
      (∀ a ∈ (Analysis.ofText config text none).blocks,
        Graph.Acyclic (Nesting.edges a.hierarchy.nested)) ∧
      ∀ d ∈ result.diagnostics, d.Renders ∧ ∀ rows : Int,
        Checked.shifted rows d = .ok (d.shifted rows) ∧ (d.shifted rows).Renders := by
  have hmake : make maxNesting radius interactions recognizers =
      .ok ⟨maxNesting.toNat, radius.toNat, interactions, recognizers⟩ := by
    rw [make, if_neg (by omega), if_neg (by omega)]
  generalize (⟨maxNesting.toNat, radius.toNat, interactions, recognizers⟩ : Config) = config
    at hmake
  refine ⟨config, config.parseText text, _, hmake, rfl,
    Checked.parse_eq hsort hdistances config text debug, ?_, fun d hd => ?_⟩
  · intro a ha
    obtain ⟨b, -, rfl⟩ := List.mem_map.1 ha
    exact Nesting.acyclic_edges fun box hbox => (Grid.draws_of_mem_detect hbox).valid
  · have hcomplete : d.Complete :=
      Analysis.complete_of_mem_diagnostics (Parsed.mem_diagnostics_iff.1 hd)
    exact ⟨hcomplete.renders, fun rows =>
      ⟨Checked.shifted_eq hcomplete rows, (hcomplete.shifted rows).renders⟩⟩

/-- A text with problems of all kinds that reading finds, read with a record. -/
theorem Config.parse_never_fails_two_blocks :
    Graph.Sorts Graph.byGeneration ∧ Graph.Measures Graph.byReach ∧
    (0 : Int) ≤ 0 ∧ (0 : Int) ≤ 3 ∧
    (∃ config result trace,
      make 0 3 none Recognizer.all = .ok config ∧
      (Session.start config).parse faultyText none true = .ok (result, ⟨config, trace⟩) ∧
      Checked.parse Graph.byGeneration Graph.byReach config faultyText true = .ok (result, trace) ∧
      (∀ a ∈ (Analysis.ofText config faultyText none).blocks,
        Graph.Acyclic (Nesting.edges a.hierarchy.nested)) ∧
      ∀ d ∈ result.diagnostics, d.Renders ∧ ∀ rows : Int,
        Checked.shifted rows d = .ok (d.shifted rows) ∧ (d.shifted rows).Renders) ∧
    (parseText ⟨0, 3, none, Recognizer.all⟩ faultyText).diagnostics.map (·.kind) =
      [.misalignedPipe, .mismatchedWidth, .unclosedBox, .emptyButton, .unclosedBracket,
        .invalidElement, .duplicateSceneId, .unusualSpacing, .deepNesting] :=
  ⟨Graph.sorts_byGeneration, Graph.measures_byReach, by decide, by decide,
    parse_never_fails Graph.sorts_byGeneration Graph.measures_byReach (by decide) (by decide) none
      Recognizer.all faultyText true,
    by decide +kernel⟩

end Wireframe
