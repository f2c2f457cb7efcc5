import Wireframe.Proofs.Blocks
import Wireframe.Proofs.Content.Rectangles
import Wireframe.Proofs.Problems
import Wireframe.Proofs.Shift

/-!
# Scenes compose

Two texts with a line of three dashes between them are read as each of them alone, what belongs to
the second one further down (`parse_join`). Nothing that is found out about a block depends on the
blocks around it: the analysis of a block with more lines in front is that of the block, moved
(`ofBlock_shifted`). Only the identifiers of the scenes are compared across blocks, so they have to
be different.
-/

namespace Wireframe

/-- The scene with more lines in front of it. -/
def Scene.shifted (rows : Nat) (s : Scene) : Scene :=
  { s with elements := Element.shiftedAll rows s.elements, line := s.line + rows }

/-! ## Blocks -/

namespace BlockAnalysis

variable {config : Config} {block : Scene.Block} {rows : Nat}

/-- What was found out about a block, with more lines in front. The drawing and what was found in it
stay, since they are placed in the text only when problems are told. -/
def shifted (rows : Nat) (a : BlockAnalysis) : BlockAnalysis :=
  { a with
    block := a.block.shifted rows
    scene := a.scene.shifted rows
    contentProblems := a.contentProblems.map (·.shifted rows) }

/-- A block with more lines in front is found to be as it was, further down. -/
theorem ofBlock_shifted (config : Config) (block : Scene.Block) (rows : Nat) :
    ofBlock config (block.shifted rows) = (ofBlock config block).shifted rows := by
  have hreader : (⟨Grid.ofLines (block.shifted rows).lines, (block.shifted rows).offset,
      config.recognizers⟩ : Reader) =
      Reader.shifted rows ⟨Grid.ofLines block.lines, block.offset, config.recognizers⟩ := by
    simp [Reader.shifted, Scene.Block.shifted]
  have hscene : ∀ (r : Reader) (roots : List BoxTree),
      (r.shifted rows).scene (block.shifted rows) roots =
        ((r.scene block roots).1.shifted rows,
          (r.scene block roots).2.map (·.shifted rows)) := by
    intro r roots
    have hreading : Reading.concat (roots.map (r.shifted rows).box) =
        (Reading.concat (roots.map r.box)).shifted rows := by
      rw [Reading.shifted_concat, List.map_map]
      exact congrArg _ (List.map_congr_left fun t _ => Reader.box_shifted t)
    have hgrid : (r.shifted rows).grid = r.grid := rfl
    simp only [Reader.scene, hreading, hgrid, Scene.shifted, Reading.shifted,
      Element.gatherRows_shifted, Element.shiftedAll_eq_map, Scene.Block.sceneId_shifted,
      Scene.Block.title_shifted, Scene.Block.transition_shifted, Scene.Block.device_shifted,
      Scene.Block.sceneLine_shifted, Int.natCast_add]
  simp only [ofBlock, hreader, hscene, shifted]
  rfl

/-- The problems of a block with more lines in front are those that it had, further down. -/
theorem diagnostics_shifted (a : BlockAnalysis) (rows : Nat) :
    (a.shifted rows).diagnostics = a.diagnostics.map (·.shifted rows) := by
  have hplace : ∀ d : Diagnostic, d.shifted ((a.block.offset + rows : Nat) : Int) =
      (d.shifted a.block.offset).shifted rows := by
    intro d
    rw [Int.natCast_add]
    exact d.shifted_add (by omega) (by omega)
  simp only [diagnostics, shifted, Scene.Block.shifted, hplace, List.map_append, List.map_map,
    Function.comp_def]

end BlockAnalysis

/-- What is looked for only among the first or only among the second parts of two lists of problems,
and is found wherever the text stands, is found in the first list and then in the second one. -/
theorem Diagnostic.filter_join {p : Diagnostic → Bool} {rows : Int}
    (hshift : ∀ d : Diagnostic, p (d.shifted rows) = p d)
    {tabs tabs' blocks blocks' : List Diagnostic}
    (hone : (∀ d ∈ tabs ++ tabs', p d = false) ∨ ∀ d ∈ blocks ++ blocks', p d = false) :
    (tabs ++ tabs'.map (·.shifted rows) ++ (blocks ++ blocks'.map (·.shifted rows))).filter p =
      (tabs ++ blocks).filter p ++ ((tabs' ++ blocks').filter p).map (·.shifted rows) := by
  have hmap : ∀ ds : List Diagnostic, (ds.map (·.shifted rows)).filter p =
      (ds.filter p).map (·.shifted rows) := by
    intro ds
    rw [List.filter_map]
    simp only [Function.comp_def, hshift]
  have hnone : ∀ {ds ds' : List Diagnostic}, (∀ d ∈ ds ++ ds', p d = false) →
      ds.filter p = [] ∧ ds'.filter p = [] := by
    intro ds ds' h
    have hall : (ds ++ ds').filter p = [] := List.filter_eq_nil_iff.2 fun d hd => by simp [h d hd]
    rwa [List.filter_append, List.append_eq_nil_iff] at hall
  simp only [List.filter_append, hmap, List.map_append]
  rcases hone with htabs | hblocks
  · simp [hnone htabs]
  · simp [hnone hblocks]

/-! ## Documents -/

namespace Analysis

/-- Lines without tabs have no tab problems. -/
theorem tabsIn_eq_nil {lines : List Line} (h : ∀ line ∈ lines, '\t' ∉ line) :
    tabsIn lines = [] := by
  refine List.filterMap_eq_nil_iff.2 ?_
  rintro ⟨line, row⟩ hline
  exact if_neg (h line (List.fst_mem_of_mem_zipIdx hline))

/-- Lines behind others hold the tabs that they held, further down. -/
theorem tabsIn_append (before after : List Line) :
    tabsIn (before ++ after) =
      tabsIn before ++ (tabsIn after).map (·.shifted before.length) := by
  have htab : ∀ (row : Nat) (line : Line), tabProblem? (before.length + row) line =
      (tabProblem? row line).map (·.shifted before.length) := by
    intro row line
    have hmoved : ∀ (p : Position) (text : String),
        (Diagnostic.unusualSpacing p text).shifted before.length =
          .unusualSpacing (p.shifted before.length) text := by
      intro p text
      unfold Diagnostic.shifted
      split
      · next hzero => rw [hzero, Position.shifted_zero]
      · rfl
    unfold tabProblem?
    split
    · rw [Option.map_some, hmoved]
      simp [Position.shifted, Int.add_comm]
    · rfl
  have hbehind : (after.zipIdx before.length).filterMap (fun x => tabProblem? x.2 x.1) =
      (tabsIn after).map (·.shifted before.length) := by
    rw [tabsIn, List.map_filterMap, List.zipIdx_eq_map_add, List.filterMap_map]
    refine List.filterMap_congr fun x _ => ?_
    exact htab x.2 x.1
  rw [tabsIn, List.zipIdx_append, List.filterMap_append, Nat.zero_add]
  exact congrArg _ hbehind

/-- Different identifiers that were not seen before are no problem. -/
theorem repeatedIds_eq_nil {seen : List (String × Position)} {scenes : List Scene}
    (hnew : ∀ s ∈ scenes, seen.lookup s.id = none) (hdistinct : (scenes.map (·.id)).Nodup) :
    repeatedIds seen scenes = [] := by
  induction scenes generalizing seen with
  | nil => rfl
  | cons s scenes ih =>
    rw [List.map_cons, List.nodup_cons] at hdistinct
    rw [repeatedIds]
    simp only [hnew s List.mem_cons_self]
    refine ih (fun t ht => ?_) hdistinct.2
    have hne : t.id ≠ s.id := fun heq => hdistinct.1 (heq ▸ List.mem_map_of_mem ht)
    rw [List.lookup_append, hnew t (List.mem_cons_of_mem _ ht), Option.none_or, List.lookup_cons,
      beq_false_of_ne hne]
    rfl

/-- A text without carriage returns is cut into lines as it is. -/
theorem linesOf_eq {text : String} (h : '\r' ∉ text.toList) :
    linesOf text = Text.lines text.toList := by
  rw [linesOf, Text.unifyNewlines_eq_self h]

/-- A text without carriage returns is cut into blocks as it is. -/
theorem blocksOf_eq {text : String} (h : '\r' ∉ text.toList) :
    blocksOf text = Scene.Block.ofText text.toList := by
  rw [blocksOf, Text.unifyNewlines_eq_self h]

/-- What a scene is called is said in its block. -/
theorem ids_scenes (config : Config) (blocks : List Scene.Block) :
    ((blocks.map (BlockAnalysis.ofBlock config)).map (·.scene)).map (·.id) =
      blocks.map (·.sceneId) := by
  rw [List.map_map, List.map_map]
  rfl

/-- Scenes whose identifiers are all different are no problem. -/
theorem idProblems_eq_nil (config : Config) {text : String}
    (h : ((blocksOf text).map (·.sceneId)).Nodup) : (ofText config text none).idProblems = [] :=
  repeatedIds_eq_nil (fun _ _ => rfl) (by rw [ids_scenes]; exact h)

/-- The problems of several blocks. -/
def blockProblems (config : Config) (blocks : List Scene.Block) : List Diagnostic :=
  (blocks.map (BlockAnalysis.ofBlock config)).flatMap (·.diagnostics)

/-- No problem of a block is a tab. -/
theorem kind_of_mem_blockProblems {config : Config} {blocks : List Scene.Block} {d : Diagnostic}
    (hd : d ∈ blockProblems config blocks) : d.kind ≠ .unusualSpacing := by
  obtain ⟨a, ha, hd⟩ := List.mem_flatMap.1 hd
  obtain ⟨block, -, rfl⟩ := List.mem_map.1 ha
  intro hkind
  have hblock := BlockAnalysis.kind_of_mem_diagnostics hd
  rw [hkind] at hblock
  exact absurd hblock (by decide)

/-- Blocks behind others have the problems that they had, further down. -/
theorem blockProblems_append (config : Config) (before after : List Scene.Block) (rows : Nat) :
    blockProblems config (before ++ after.map (Scene.Block.shifted rows)) =
      blockProblems config before ++ (blockProblems config after).map (·.shifted rows) := by
  simp only [blockProblems, List.map_append, List.map_map, List.flatMap_append, List.flatMap_map,
    List.map_flatMap, Function.comp_def, BlockAnalysis.ofBlock_shifted,
    BlockAnalysis.diagnostics_shifted]

/-- If its scenes have different identifiers, the problems of a text are its tabs and the problems
of its blocks. -/
theorem diagnostics_ofText (config : Config) {text : String}
    (h : ((blocksOf text).map (·.sceneId)).Nodup) :
    (ofText config text none).diagnostics =
      tabsIn (linesOf text) ++ blockProblems config (blocksOf text) := by
  unfold diagnostics
  rw [idProblems_eq_nil config h, List.append_nil]
  exact List.append_nil _

/-! ## Joined texts -/

section Join

variable {first second : String} (hreturn : '\r' ∉ first.toList) (hreturn' : '\r' ∉ second.toList)
  (hfilled : ∃ b ∈ Scene.Block.ofLines (Text.lines first.toList), b.isEmpty = false)
  (hfilled' : ∃ b ∈ Scene.Block.ofLines (Text.lines second.toList), b.isEmpty = false)
  (hdistinct : ((blocksOf first ++ blocksOf second).map (·.sceneId)).Nodup)

/-- The characters of two texts with a separator between them. -/
theorem toList_join (first second : String) :
    (first ++ "\n---\n" ++ second).toList =
      first.toList ++ '\n' :: ("---".toList ++ '\n' :: second.toList) := by
  simp

include hreturn hreturn'

/-- Two texts without carriage returns have none with a separator between them. -/
theorem return_not_mem_join : '\r' ∉ (first ++ "\n---\n" ++ second).toList := by
  simp [hreturn, hreturn']

/-- The lines of both texts with the separator between them. -/
theorem linesOf_join :
    linesOf (first ++ "\n---\n" ++ second) =
      linesOf first ++ ["---".toList] ++ linesOf second := by
  rw [linesOf_eq (return_not_mem_join hreturn hreturn'), linesOf_eq hreturn, linesOf_eq hreturn',
    toList_join, Text.lines_append, Text.lines_append_newline _ (by decide), List.append_assoc]
  rfl

include hfilled hfilled'

/-- The blocks of both texts. -/
theorem blocksOf_join :
    blocksOf (first ++ "\n---\n" ++ second) =
      blocksOf first ++
        (blocksOf second).map (Scene.Block.shifted ((Text.lines first.toList).length + 1)) := by
  rw [blocksOf_eq (return_not_mem_join hreturn hreturn'), blocksOf_eq hreturn,
    blocksOf_eq hreturn', toList_join, Scene.Block.ofText_join hfilled hfilled']

/-- The scenes of both texts, those of the second one further down. -/
theorem scenes_join (config : Config) :
    (ofText config (first ++ "\n---\n" ++ second) none).scenes =
      (ofText config first none).scenes ++ (ofText config second none).scenes.map
        (Scene.shifted ((Text.lines first.toList).length + 1)) := by
  have hscenes : ∀ text, (ofText config text none).scenes =
      (blocksOf text).map fun block => (BlockAnalysis.ofBlock config block).scene := by
    intro text
    exact List.map_map
  have hscene : ∀ (block : Scene.Block) (rows : Nat),
      (BlockAnalysis.ofBlock config (block.shifted rows)).scene =
        (BlockAnalysis.ofBlock config block).scene.shifted rows := by
    intro block rows
    rw [BlockAnalysis.ofBlock_shifted]
    rfl
  rw [hscenes, hscenes, hscenes, blocksOf_join hreturn hreturn' hfilled hfilled', List.map_append,
    List.map_map, List.map_map]
  simp only [Function.comp_def, hscene]

include hdistinct

/-- The problems of both texts: the tabs first, those of the second text further down, and then the
problems of the blocks. -/
theorem diagnostics_join (config : Config) :
    (ofText config (first ++ "\n---\n" ++ second) none).diagnostics =
      tabsIn (linesOf first) ++ (tabsIn (linesOf second)).map
          (·.shifted ((Text.lines first.toList).length + 1 : Nat)) ++
        (blockProblems config (blocksOf first) ++ (blockProblems config (blocksOf second)).map
          (·.shifted ((Text.lines first.toList).length + 1 : Nat))) := by
  have hblocks := blocksOf_join hreturn hreturn' hfilled hfilled'
  have hids : ((blocksOf (first ++ "\n---\n" ++ second)).map (·.sceneId)).Nodup := by
    rw [hblocks, List.map_append, List.map_map]
    simpa [Function.comp_def] using hdistinct
  have hseparator : tabsIn ["---".toList] = [] := by decide
  have hrows : (linesOf first ++ ["---".toList]).length = (Text.lines first.toList).length + 1 := by
    rw [linesOf_eq hreturn, List.length_append, List.length_singleton]
  rw [diagnostics_ofText config hids, hblocks, blockProblems_append,
    linesOf_join hreturn hreturn', tabsIn_append, tabsIn_append, hseparator, hrows, List.map_nil,
    List.append_nil]

/-- The errors of both texts, those of the second one further down. -/
theorem errors_join (config : Config) :
    (config.parseText (first ++ "\n---\n" ++ second)).errors =
      (config.parseText first).errors ++ (config.parseText second).errors.map
        (·.shifted ((Text.lines first.toList).length + 1 : Nat)) := by
  have hjoined := diagnostics_join hreturn hreturn' hfilled hfilled' hdistinct config
  rw [List.map_append, List.nodup_append] at hdistinct
  have hfirst := diagnostics_ofText config hdistinct.1
  have hsecond := diagnostics_ofText config hdistinct.2.1
  -- Tabs are no errors.
  have htabs : ∀ d ∈ tabsIn (linesOf first) ++ tabsIn (linesOf second), d.isError = false := by
    intro d hd
    have hkind : d.kind = .unusualSpacing := by
      rcases List.mem_append.1 hd with h | h <;> exact kind_of_mem_tabsIn h
    unfold Diagnostic.isError Diagnostic.severity
    rw [hkind]
    rfl
  have hfilter : ∀ text, (config.parseText text).errors =
      (ofText config text none).diagnostics.filter (·.isError) := fun _ => rfl
  rw [hfilter, hfilter, hfilter, hjoined,
    Diagnostic.filter_join (fun d => d.isError_shifted _) (.inl htabs), ← hfirst, ← hsecond]

/-- The warnings of a kind of both texts, those of the second one further down. -/
theorem warnings_join (config : Config) (kind : Diagnostic.Kind) :
    (config.parseText (first ++ "\n---\n" ++ second)).warnings.filter
        (fun d => decide (d.kind = kind)) =
      (config.parseText first).warnings.filter (fun d => decide (d.kind = kind)) ++
        ((config.parseText second).warnings.filter fun d => decide (d.kind = kind)).map
          (·.shifted ((Text.lines first.toList).length + 1 : Nat)) := by
  have hjoined := diagnostics_join hreturn hreturn' hfilled hfilled' hdistinct config
  rw [List.map_append, List.nodup_append] at hdistinct
  have hfirst := diagnostics_ofText config hdistinct.1
  have hsecond := diagnostics_ofText config hdistinct.2.1
  have hfilter : ∀ text, (config.parseText text).warnings.filter (fun d => decide (d.kind = kind)) =
      (ofText config text none).diagnostics.filter
        fun d => decide (d.kind = kind) && !d.isError := fun text => List.filter_filter ..
  rw [hfilter, hfilter, hfilter, hjoined, hfirst, hsecond]
  refine Diagnostic.filter_join (fun d => by simp) ?_
  -- Tabs are of a kind of their own, so that no kind is found both among them and in blocks.
  by_cases hkind : kind = .unusualSpacing
  · refine .inr fun d hd => ?_
    have hne : d.kind ≠ .unusualSpacing := by
      rcases List.mem_append.1 hd with h | h <;> exact kind_of_mem_blockProblems h
    simp [hkind, hne]
  · refine .inl fun d hd => ?_
    have heq : d.kind = .unusualSpacing := by
      rcases List.mem_append.1 hd with h | h <;> exact kind_of_mem_tabsIn h
    simp [heq, Ne.symm hkind]

end Join

end Analysis

/-- What reading two texts with a separator between them gives, compared with what reading each of
them alone gives, if `rows` lines stand in front of the second text. -/
structure Parsed.Joins (rows : Nat) (first second joined : Parsed) : Prop where
  /-- There are errors exactly if there are some in one of the texts. -/
  success : joined.success = true ↔ first.success = true ∧ second.success = true
  /-- The errors are those of the first text and then those of the second one, further down. -/
  errors : joined.errors = first.errors ++ second.errors.map (·.shifted rows)
  /-- So are the warnings of each kind. -/
  warnings : ∀ kind, joined.warnings.filter (fun d => decide (d.kind = kind)) =
    first.warnings.filter (fun d => decide (d.kind = kind)) ++
      (second.warnings.filter fun d => decide (d.kind = kind)).map (·.shifted rows)
  /-- Without errors the scenes are those of the first text and then those of the second one,
  further down. -/
  document : joined.success = true → ∃ d e, first.document = some d ∧ second.document = some e ∧
    joined.document = some ⟨d.scenes ++ e.scenes.map (Scene.shifted rows)⟩

namespace Config

/-- Two texts without carriage returns and with something in both of them, whose scenes all have
different identifiers: with a line of three dashes between them they are read as each of them alone,
what belongs to the second one further down. -/
theorem parse_join (config : Config) (first second : String)
    (hreturn : '\r' ∉ first.toList) (hreturn' : '\r' ∉ second.toList)
    (hfilled : ∃ b ∈ Scene.Block.ofLines (Text.lines first.toList), b.isEmpty = false)
    (hfilled' : ∃ b ∈ Scene.Block.ofLines (Text.lines second.toList), b.isEmpty = false)
    (hdistinct :
      ((Analysis.blocksOf first ++ Analysis.blocksOf second).map (·.sceneId)).Nodup) :
    ∃ a b c, config.parse first none = .ok a ∧ config.parse second none = .ok b ∧
      config.parse (first ++ "\n---\n" ++ second) none = .ok c ∧
      Parsed.Joins ((Text.lines first.toList).length + 1) a b c := by
  refine ⟨_, _, _, parse_none config first, parse_none config second, parse_none config _, ?_⟩
  have herrors := Analysis.errors_join hreturn hreturn' hfilled hfilled' hdistinct config
  have hsuccess : (config.parseText (first ++ "\n---\n" ++ second)).success = true ↔
      (config.parseText first).success = true ∧ (config.parseText second).success = true := by
    unfold Parsed.success
    rw [herrors]
    simp
  refine ⟨hsuccess, herrors,
    Analysis.warnings_join hreturn hreturn' hfilled hfilled' hdistinct config, fun h => ?_⟩
  -- Without interactions a document is made of the scenes as they are drawn.
  have hdocument : ∀ text, (config.parseText text).success = true →
      (config.parseText text).document = some ⟨(Analysis.ofText config text none).scenes⟩ := by
    intro text hok
    have hnone : (bySeverity (Analysis.ofText config text none).diagnostics).1 = [] :=
      List.isEmpty_iff.1 hok
    exact if_pos hnone
  obtain ⟨hfirst, hsecond⟩ := hsuccess.1 h
  refine ⟨_, _, hdocument first hfirst, hdocument second hsecond, ?_⟩
  rw [hdocument _ h, Analysis.scenes_join hreturn hreturn' hfilled hfilled']

/-- A box with a button. -/
def buttonText : String := "+---+\n|[a]|\n+---+"

/-- A scene of its own, with a tab in a box. -/
def tabText : String := "@scene: next\n+--+\n|\tb|\n+--+"

/-- A button in the first scene, a tab in the second one, and no errors. -/
theorem parse_join_two_scenes :
    (∃ a b c, default.parse buttonText none = .ok a ∧ default.parse tabText none = .ok b ∧
      default.parse (buttonText ++ "\n---\n" ++ tabText) none = .ok c ∧
      Parsed.Joins ((Text.lines buttonText.toList).length + 1) a b c) ∧
      ((default.parseText (buttonText ++ "\n---\n" ++ tabText)).document.map fun d =>
          d.scenes.map fun s => (s.id, s.line, Element.rectangles s.elements)) =
        some [("main", 0, [⟨0, 0, 2, 4⟩]), ("next", 4, [⟨5, 0, 7, 3⟩])] ∧
      ((default.parseText (buttonText ++ "\n---\n" ++ tabText)).warnings.map (·.position)) =
        [⟨6, 1⟩] := by
  have hfilled : ∃ b ∈ Scene.Block.ofLines (Text.lines buttonText.toList), b.isEmpty = false :=
    ⟨⟨0, ["+---+".toList, "|[a]|".toList, "+---+".toList], []⟩, by decide +kernel,
      by decide +kernel⟩
  have hfilled' : ∃ b ∈ Scene.Block.ofLines (Text.lines tabText.toList), b.isEmpty = false :=
    ⟨⟨0, [[], "+--+".toList, "|\tb|".toList, "+--+".toList], [⟨.scene, "next", 0⟩]⟩,
      by decide +kernel, by decide +kernel⟩
  have hdistinct : ((Analysis.blocksOf buttonText ++ Analysis.blocksOf tabText).map
      (·.sceneId)).Nodup := by
    decide +kernel
  exact ⟨parse_join default buttonText tabText (by decide) (by decide) hfilled hfilled' hdistinct,
    by decide +kernel, by decide +kernel⟩

end Config

end Wireframe
