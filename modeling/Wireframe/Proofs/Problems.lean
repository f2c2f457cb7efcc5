import Wireframe.Parse
import Wireframe.Proofs.Content.Rows
import Wireframe.Proofs.Nesting.Laminar
import Wireframe.Proofs.Nesting.Levels
import Wireframe.Proofs.Outline.Faults

/-!
# The problems that each stage finds

Following outlines finds problems of three kinds, all of them errors, and reading the content of
boxes finds three others, with content that stands on a row (`exists_of_mem_row`). The remaining
stages find one kind each. The problems of a text are taken apart into those of the stages
(`Analysis.mem_diagnostics_iff`, `BlockAnalysis.mem_diagnostics_iff`). Since the boxes of one
drawing are laminar, no stage ever finds overlapping boxes (`laminar_boxes_never_overlapping`).
-/

namespace Wireframe

namespace Diagnostic.Kind

/-- The kinds of problems with the outline of a box. -/
def ofOutline : Diagnostic.Kind → Bool
  | .unclosedBox => true
  | .mismatchedWidth => true
  | .misalignedPipe => true
  | _ => false

/-- The kinds of problems with the content of a box. -/
def ofContent : Diagnostic.Kind → Bool
  | .invalidElement => true
  | .unclosedBracket => true
  | .emptyButton => true
  | _ => false

/-- Problems with outlines are errors. -/
theorem severity_of_ofOutline {kind : Diagnostic.Kind} (h : kind.ofOutline = true) :
    kind.severity = .error := by
  cases kind <;> simp_all [ofOutline, severity]

end Diagnostic.Kind

/-- A problem with an outline is an error. -/
theorem Diagnostic.isError_of_ofOutline {d : Diagnostic} (h : d.kind.ofOutline = true) :
    d.isError = true := by
  rw [isError, severity, Kind.severity_of_ofOutline h]
  rfl

/-! ## Outlines -/

namespace Grid

variable {g : Grid} {radius : Int} {d : Diagnostic}

/-- Faults of a drawing are of the kinds for outlines. -/
theorem Fault.ofOutline (h : g.Fault d) : d.kind.ofOutline = true := by
  cases h <;> rfl

/-- The problems found in a drawing are of the kinds for outlines. -/
theorem ofOutline_of_mem_detect (h : d ∈ (g.detect radius).problems) :
    d.kind.ofOutline = true := (fault_of_mem_detect h).ofOutline

/-- The problems found in a drawing are errors. -/
theorem isError_of_mem_detect (h : d ∈ (g.detect radius).problems) : d.isError = true :=
  Diagnostic.isError_of_ofOutline (ofOutline_of_mem_detect h)

end Grid

/-! ## Nesting -/

namespace Nesting

variable {maxDepth : Nat} {nested : List Nested} {d : Diagnostic}

/-- Trees of boxes are warned of at one of the boxes, when they are too deep. -/
theorem exists_of_mem_depthWarnings (h : d ∈ depthWarnings maxDepth nested) :
    ∃ n ∈ nested, ∃ depth : Nat, maxDepth < depth ∧
      d = .deepNesting n.box.bounds.topLeft depth maxDepth := by
  obtain ⟨root, -, hroot⟩ := List.mem_filterMap.1 h
  obtain ⟨l, hdeepest, hl⟩ := Option.bind_eq_some_iff.1 hroot
  split at hl
  · next hdepth =>
    exact ⟨l.nested, mem_of_deepest hdeepest, l.depth, hdepth, (Option.some.inj hl).symm⟩
  · simp at hl

/-- Trees of boxes are warned of when they are too deep, and for nothing else. -/
theorem kind_of_mem_depthWarnings (h : d ∈ depthWarnings maxDepth nested) :
    d.kind = .deepNesting := by
  obtain ⟨n, -, depth, -, rfl⟩ := exists_of_mem_depthWarnings h
  rfl

end Nesting

/-! ## Content -/

namespace Reader

variable {r : Reader} {row : Int} {b : Bounds} {d : Diagnostic}

/-- Content is either unreadable in one of three ways or no problem. -/
theorem exists_of_mem_syntaxProblem {content : Line} {p : Position}
    (h : d ∈ syntaxProblem content p) :
    content ≠ [] ∧ ∃ kind : Diagnostic.Kind, kind.ofContent = true ∧
      d = .syntaxError kind p (String.ofList content) := by
  have hfilled : content ≠ [] := by
    rintro rfl
    simp [syntaxProblem, Form.bracketed?] at h
  refine ⟨hfilled, ?_⟩
  rw [syntaxProblem] at h
  split at h
  · exact ⟨_, rfl, List.mem_singleton.1 h⟩
  · split at h
    · exact ⟨_, rfl, List.mem_singleton.1 h⟩
    · split at h
      · exact ⟨_, rfl, List.mem_singleton.1 h⟩
      · simp at h

/-- The problems of a row are those of content that stands on it. -/
theorem exists_of_mem_row (h : d ∈ (r.row row b).problems) :
    ∃ (kind : Diagnostic.Kind) (k : Nat) (content : Line), kind.ofContent = true ∧ content ≠ [] ∧
      content <+: (r.grid.rowChars row (b.left + 1) (some b.right)).drop k ∧
      d = .syntaxError kind (r.place row (b.left + 1 + k)) (String.ofList content) := by
  rw [Reader.row] at h
  generalize r.grid.rowChars row (b.left + 1) (some b.right) = text at h ⊢
  split at h
  · simp at h
  · rw [contentRow] at h
    dsimp only at h
    split at h
    · -- A row of controls has the problems of its segments, whether it is read as one or not.
      have hsegments : d ∈ (Segment.ofLine text).flatMap fun s =>
          syntaxProblem s.text (r.place row (b.left + 1 + s.start)) := by
        split at h <;> exact h
      obtain ⟨s, hs, hd⟩ := List.mem_flatMap.1 hsegments
      obtain ⟨hfilled, kind, hkind, rfl⟩ := exists_of_mem_syntaxProblem hd
      exact ⟨kind, s.start, s.text, hkind, hfilled, Segment.text_prefix_of_mem_ofLine hs, rfl⟩
    · obtain ⟨hfilled, kind, hkind, rfl⟩ := exists_of_mem_syntaxProblem h
      exact ⟨kind, _, _, hkind, hfilled, trim_prefix_drop text, rfl⟩

/-- The problems met while reading a scene are those of content. -/
theorem ofContent_of_mem_scene (block : Scene.Block) {roots : List BoxTree}
    (h : d ∈ (r.scene block roots).2) : d.kind.ofContent = true := by
  obtain ⟨box, -, row, -, hd⟩ := exists_row_of_mem_scene block h
  obtain ⟨kind, k, content, hkind, -, -, rfl⟩ := exists_of_mem_row hd
  exact hkind

end Reader

/-! ## Whole documents -/

/-- What a parse gives comes from the analysis of the text, with the interactions if any. -/
theorem Config.exists_analysis {config : Config} {text : String} {interactions : Option String}
    {result : Parsed} (h : config.parse text interactions = .ok result) :
    ∃ given, result = .ofAnalysis (.ofText config text given) := by
  cases hreader : config.withReader interactions with
  | error e => simp [parse, analyze, hreader, Except.map] at h
  | ok given =>
    simp only [parse, analyze, hreader, Except.map, Except.ok.injEq] at h
    exact ⟨given, h.symm⟩

/-- The diagnostics of a result are those of the analysis, errors first. -/
theorem Parsed.mem_diagnostics_iff {a : Analysis} {d : Diagnostic} :
    d ∈ (ofAnalysis a).diagnostics ↔ d ∈ a.diagnostics := by
  show d ∈ a.diagnostics.filter (·.isError) ++ a.diagnostics.filter (fun d => !d.isError) ↔ _
  rw [List.mem_append, List.mem_filter, List.mem_filter, ← and_or_left]
  cases d.isError <;> simp

/-- The problems of a block are those of its outlines and of its nesting, moved down to where the
block stands, and those of its content. -/
theorem BlockAnalysis.mem_diagnostics_iff {config : Config} {block : Scene.Block}
    {d : Diagnostic} :
    d ∈ (ofBlock config block).diagnostics ↔
      (∃ e ∈ ((Grid.ofLines block.lines).detect config.radius).problems,
        e.shifted block.offset = d) ∨
      (∃ e ∈ (ofBlock config block).hierarchy.warnings, e.shifted block.offset = d) ∨
        d ∈ (ofBlock config block).contentProblems := by
  have herrors : (ofBlock config block).hierarchy.errors = [] :=
    Grid.errors_ofBoxes_detect _ _ _
  rw [diagnostics]
  rw [herrors, List.map_nil, List.append_nil, List.mem_append, List.mem_append, List.mem_map,
    List.mem_map, or_assoc]
  rfl

/-- The problems of a text are its tabs, the problems of its blocks, the repeated identifiers, and
the problems with interactions if there are any. -/
theorem Analysis.mem_diagnostics_iff {config : Config} {text : String}
    {interactions : Option (InteractionReader × String)} {d : Diagnostic} :
    d ∈ (ofText config text interactions).diagnostics ↔
      d ∈ tabsIn (linesOf text) ∨
      (∃ block ∈ blocksOf text, d ∈ (BlockAnalysis.ofBlock config block).diagnostics) ∨
      d ∈ (ofText config text interactions).idProblems ∨
        ∃ i, (ofText config text interactions).interactions = some i ∧
          (d ∈ i.readProblems ∨ d ∈ i.merge.problems) := by
  have hblocks : d ∈ (ofText config text interactions).blocks.flatMap (·.diagnostics) ↔
      ∃ block ∈ blocksOf text, d ∈ (BlockAnalysis.ofBlock config block).diagnostics := by
    simp only [ofText, List.mem_flatMap, List.mem_map, exists_exists_and_eq_and]
  rw [diagnostics, List.mem_append, List.mem_append, List.mem_append, hblocks, or_assoc, or_assoc]
  refine or_congr Iff.rfl (or_congr Iff.rfl (or_congr Iff.rfl ?_))
  cases (ofText config text interactions).interactions <;> simp

/-- The problems of a block are those of its outlines, its nesting and its content. -/
theorem BlockAnalysis.kind_of_mem_diagnostics {config : Config} {block : Scene.Block}
    {d : Diagnostic} (h : d ∈ (ofBlock config block).diagnostics) :
    d.kind.ofOutline = true ∨ d.kind = .deepNesting ∨ d.kind.ofContent = true := by
  rcases mem_diagnostics_iff.1 h with ⟨e, he, rfl⟩ | ⟨e, he, rfl⟩ | hcontent
  · rw [Diagnostic.kind_shifted]
    exact .inl (Grid.ofOutline_of_mem_detect he)
  · rw [Diagnostic.kind_shifted]
    exact .inr (.inl (Nesting.kind_of_mem_depthWarnings he))
  · exact .inr (.inr (Reader.ofContent_of_mem_scene block hcontent))

namespace Analysis

variable {d : Diagnostic}

/-- A tab is unusual spacing. -/
theorem kind_of_mem_tabsIn {lines : List Line} (h : d ∈ tabsIn lines) :
    d.kind = .unusualSpacing := by
  obtain ⟨⟨line, row⟩, -, hline⟩ := List.mem_filterMap.1 h
  dsimp only at hline
  rw [tabProblem?] at hline
  split at hline
  · rw [← Option.some.inj hline]
    rfl
  · simp at hline

/-- A repeated identifier is a duplicate one. -/
theorem kind_of_mem_repeatedIds {seen : List (String × Position)} {scenes : List Scene}
    (h : d ∈ repeatedIds seen scenes) : d.kind = .duplicateSceneId := by
  induction scenes generalizing seen with
  | nil => simp [repeatedIds] at h
  | cons s scenes ih =>
    rw [repeatedIds] at h
    split at h
    · rcases List.mem_cons.1 h with rfl | h
      · rfl
      · exact ih h
    · exact ih h

/-- A text of interactions is either read without problems or unreadable. -/
theorem kind_of_mem_readText {reader : InteractionReader} {text : String}
    (h : d ∈ (Interaction.readText reader text).2) : d.kind = .invalidInteraction := by
  rw [Interaction.readText] at h
  split at h
  · simp at h
  · rw [List.mem_singleton.1 h]
    rfl

/-- The problem with an interaction is that no element is there for it. -/
theorem kind_of_mem_merge {document : Document} {interactions : List Interaction}
    (h : d ∈ (document.merge interactions).problems) : d.kind = .unknownElementId := by
  obtain ⟨i, -, rfl⟩ := List.mem_map.1 h
  rfl

/-- A problem of a text that none of its blocks has is a tab, a repeated identifier or one of the
interactions. -/
theorem mem_block_or_kind {config : Config} {text : String}
    {interactions : Option (InteractionReader × String)}
    (h : d ∈ (ofText config text interactions).diagnostics) :
    (∃ block ∈ blocksOf text, d ∈ (BlockAnalysis.ofBlock config block).diagnostics) ∨
      d.kind ∈ [.unusualSpacing, .duplicateSceneId, .invalidInteraction, .unknownElementId] := by
  rcases mem_diagnostics_iff.1 h with htab | hblock | hid | ⟨i, hi, hinteraction⟩
  · rw [kind_of_mem_tabsIn htab]
    exact .inr (by decide)
  · exact .inl hblock
  · rw [kind_of_mem_repeatedIds hid]
    exact .inr (by decide)
  · obtain ⟨given, -, rfl⟩ := Option.map_eq_some_iff.1 hi
    rcases hinteraction with hread | hmerge
    · rw [kind_of_mem_readText hread]
      exact .inr (by decide)
    · rw [kind_of_mem_merge hmerge]
      exact .inr (by decide)

/-- No analysis finds overlapping boxes. -/
theorem kind_ne_overlappingBoxes {config : Config} {text : String}
    {interactions : Option (InteractionReader × String)}
    (h : d ∈ (ofText config text interactions).diagnostics) : d.kind ≠ .overlappingBoxes := by
  intro hkind
  rcases mem_block_or_kind h with ⟨block, -, hd⟩ | hother
  · rcases BlockAnalysis.kind_of_mem_diagnostics hd with h | h | h <;> rw [hkind] at h <;>
      exact absurd h (by decide)
  · rw [hkind] at hother
    exact absurd hother (by decide)

/-- A problem of a text with an outline is one of a drawing in its blocks. -/
theorem mem_outline_diagnostics_iff {config : Config} {text : String}
    {interactions : Option (InteractionReader × String)} :
    (d ∈ (ofText config text interactions).diagnostics ∧ d.kind.ofOutline = true) ↔
      ∃ block ∈ blocksOf text, ∃ e ∈ ((Grid.ofLines block.lines).detect config.radius).problems,
        e.shifted block.offset = d := by
  constructor
  · rintro ⟨h, hkind⟩
    have hnot : ∀ kind : Diagnostic.Kind, kind.ofOutline = true → kind ≠ .deepNesting ∧
        kind.ofContent = false ∧
        kind ∉ [Diagnostic.Kind.unusualSpacing, .duplicateSceneId, .invalidInteraction,
          .unknownElementId] := by
      intro kind
      cases kind <;> decide
    obtain ⟨hnesting, hcontent, hother⟩ := hnot d.kind hkind
    obtain ⟨block, hblock, hd⟩ := (mem_block_or_kind h).resolve_right hother
    refine ⟨block, hblock, (BlockAnalysis.mem_diagnostics_iff.1 hd).resolve_right ?_⟩
    rintro (⟨e, he, rfl⟩ | hd)
    · rw [Diagnostic.kind_shifted] at hnesting
      exact hnesting (Nesting.kind_of_mem_depthWarnings he)
    · rw [Reader.ofContent_of_mem_scene block hd] at hcontent
      exact Bool.false_ne_true hcontent.symm
  · rintro ⟨block, hblock, e, he, rfl⟩
    refine ⟨mem_diagnostics_iff.2 (.inr (.inl ⟨block, hblock,
      BlockAnalysis.mem_diagnostics_iff.2 (.inl ⟨e, he, rfl⟩)⟩)), ?_⟩
    rw [Diagnostic.kind_shifted]
    exact Grid.ofOutline_of_mem_detect he

end Analysis

/-- Any two boxes found in a grid lie strictly one inside the other or do not overlap. So nesting
them gives no errors, and no text whatsoever is said to hold overlapping boxes. -/
theorem laminar_boxes_never_overlapping :
    (∀ (g : Grid) (radius : Int),
        (g.detect radius).boxes.Pairwise fun a b => a.bounds.Laminar b.bounds) ∧
      (∀ (g : Grid) (radius : Int) (maxDepth : Nat),
        (Hierarchy.ofBoxes maxDepth (g.detect radius).boxes).errors = []) ∧
      ∀ (config : Config) (text : String) (interactions : Option String) (result : Parsed),
        config.parse text interactions = .ok result →
          ∀ d ∈ result.diagnostics, d.kind ≠ .overlappingBoxes := by
  refine ⟨Grid.pairwise_laminar_detect, Grid.errors_ofBoxes_detect, ?_⟩
  intro config text interactions result hparse d hd
  obtain ⟨given, rfl⟩ := Config.exists_analysis hparse
  -- The diagnostics of the result are those of the analysis, errors first.
  have hmem : d ∈ (Analysis.ofText config text given).diagnostics := by
    rcases List.mem_append.1 hd with h | h
    · exact (List.mem_filter.1 h).1
    · exact (List.mem_filter.1 h).1
  exact Analysis.kind_ne_overlappingBoxes hmem

/-- Two boxes drawn across each other are refused, though not for an overlap. -/
theorem laminar_boxes_never_overlapping_crossing :
    ∃ result : Parsed,
      Config.default.parse
          "+-----+\n|     |\n|  +--+--+\n|  |  |  |\n+--+--+  |\n   |     |\n   +-----+" none =
        .ok result ∧
      result.errors ≠ [] ∧ ∀ d ∈ result.diagnostics, d.kind ≠ .overlappingBoxes := by
  have hparse := Config.default.parse_none
    "+-----+\n|     |\n|  +--+--+\n|  |  |  |\n+--+--+  |\n   |     |\n   +-----+"
  refine ⟨_, hparse, by decide +kernel, ?_⟩
  exact laminar_boxes_never_overlapping.2.2 _ _ _ _ hparse

/-- A text with two blocks and problems of all kinds that reading finds: all but overlaps and those
with interactions. -/
def faultyText : String :=
  "+---+\r\n|+-+|\n||a||\n|+-+|\n+---+\n@scene: main\n+---+\n|[ ]|\n|[b |\n|# c|\n" ++
    "|\td |\n+---+\n+-+\n|e |\n+--+\n+--"

end Wireframe
