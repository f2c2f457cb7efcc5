import Wireframe.Proofs.Detection.Alarms
import Wireframe.Proofs.Problems

/-!
# The radius

The radius in which misplaced pieces of an edge are looked for has no part in which boxes are found,
so nothing that is made of the boxes depends on it: two radii give the same scenes
(`scenes_withRadius`) and the same problems but for those of outlines (`otherProblem_withRadius`).
Outlines have no problem at a larger radius exactly when they have none at a smaller one and no
corner is misread at the larger one (`problems_eq_nil_iff_of_le`). So every text that is accepted at
a radius is accepted at all smaller ones and gives the same document (`document_withRadius_iff`), but
a larger radius may turn a drawing of complete boxes down.
-/

namespace Wireframe

/-- The settings with another radius. -/
def Config.withRadius (config : Config) (radius : Nat) : Config := { config with radius }

namespace Grid

variable {g : Grid} {r r' : Int} {p q : Position}

/-- The boxes found are the same for all radii. -/
theorem boxes_detect_eq (g : Grid) (r r' : Int) : (g.detect r).boxes = (g.detect r').boxes := by
  rw [boxes_detect, boxes_detect]
  exact List.filterMap_congr fun p _ => box?_outline_eq g r r' p

/-- A larger radius sees the pieces of an edge that a smaller one sees. -/
theorem GoesBelow.mono (h : g.GoesBelow r p q) (hle : r ≤ r') : g.GoesBelow r' p q := by
  obtain ⟨hfree, col, hpiece, hright, hfrom, hto⟩ := h
  exact ⟨hfree, col, hpiece, hright, by omega, by omega⟩

/-- What is misread at a radius is misread at all larger ones. -/
theorem Misread.mono (h : g.Misread r p) (hle : r ≤ r') : g.Misread r' p := by
  obtain ⟨q, hto, hbelow⟩ := h.goesBelow
  exact ⟨h.corner, h.opening, h.not_topLeft, q, hto, hbelow.mono hle⟩

/-- Nothing is reported at a radius exactly when nothing is reported at a smaller one and no corner
is misread. -/
theorem problems_eq_nil_iff_of_le (hr : 0 ≤ r) (hle : r ≤ r') :
    (g.detect r').problems = [] ↔ (g.detect r).problems = [] ∧ ∀ p, ¬ g.Misread r' p := by
  rw [problems_eq_nil_iff hr, problems_eq_nil_iff (hr.trans hle)]
  constructor
  · rintro ⟨hcorners, hread⟩
    exact ⟨⟨hcorners, fun p hmisread => hread p (hmisread.mono hle)⟩, hread⟩
  · rintro ⟨⟨hcorners, -⟩, hread⟩
    exact ⟨hcorners, hread⟩

end Grid

/-! ## Blocks -/

namespace BlockAnalysis

variable (config : Config) (block : Scene.Block) (r r' : Nat)

/-- The nesting of the boxes of a block is the same for all radii. -/
theorem hierarchy_withRadius :
    (ofBlock (config.withRadius r) block).hierarchy =
      (ofBlock (config.withRadius r') block).hierarchy :=
  congrArg (Hierarchy.ofBoxes config.maxNesting) (Grid.boxes_detect_eq _ r r')

/-- What is read in the boxes of a block is the same for all radii. -/
theorem reading_withRadius :
    (ofBlock (config.withRadius r) block).scene = (ofBlock (config.withRadius r') block).scene ∧
      (ofBlock (config.withRadius r) block).contentProblems =
        (ofBlock (config.withRadius r') block).contentProblems := by
  have htrees := congrArg Hierarchy.trees (hierarchy_withRadius config block r r')
  unfold ofBlock at htrees ⊢
  dsimp only [Config.withRadius] at htrees ⊢
  rw [htrees]
  exact ⟨rfl, rfl⟩

end BlockAnalysis

/-! ## Documents -/

namespace Analysis

variable (config : Config) (text : String) (r r' : Nat)

/-- The scenes of a text are the same for all radii. -/
theorem scenes_withRadius :
    (ofText (config.withRadius r) text none).scenes =
      (ofText (config.withRadius r') text none).scenes := by
  simp only [scenes, ofText, List.map_map]
  exact List.map_congr_left fun block _ =>
    (BlockAnalysis.reading_withRadius config block r r').1

/-- A problem of a text that is not one of an outline. -/
def OtherProblem (config : Config) (text : String) (d : Diagnostic) : Prop :=
  d ∈ tabsIn (linesOf text) ∨
    (∃ block ∈ blocksOf text,
      (∃ e ∈ (BlockAnalysis.ofBlock config block).hierarchy.warnings,
        e.shifted block.offset = d) ∨
      d ∈ (BlockAnalysis.ofBlock config block).contentProblems) ∨
    d ∈ (ofText config text none).idProblems

/-- The problems of a text are those of the outlines in its blocks and the others. -/
theorem mem_diagnostics_iff_outline_or_other {config : Config} {text : String} {d : Diagnostic} :
    d ∈ (ofText config text none).diagnostics ↔
      (∃ block ∈ blocksOf text, ∃ e ∈ ((Grid.ofLines block.lines).detect config.radius).problems,
        e.shifted block.offset = d) ∨ OtherProblem config text d := by
  rw [mem_diagnostics_iff]
  constructor
  · rintro (htab | ⟨block, hblock, hd⟩ | hid | ⟨i, hi, -⟩)
    · exact .inr (.inl htab)
    · rcases BlockAnalysis.mem_diagnostics_iff.1 hd with houtline | hinside
      · exact .inl ⟨block, hblock, houtline⟩
      · exact .inr (.inr (.inl ⟨block, hblock, hinside⟩))
    · exact .inr (.inr (.inr hid))
    · simp [ofText] at hi
  · rintro (⟨block, hblock, houtline⟩ | htab | ⟨block, hblock, hinside⟩ | hid)
    · exact .inr (.inl ⟨block, hblock, BlockAnalysis.mem_diagnostics_iff.2 (.inl houtline)⟩)
    · exact .inl htab
    · exact .inr (.inl ⟨block, hblock, BlockAnalysis.mem_diagnostics_iff.2 (.inr hinside)⟩)
    · exact .inr (.inr (.inl hid))

/-- The problems of a text that are not those of outlines are the same for all radii. -/
theorem otherProblem_withRadius {d : Diagnostic} :
    OtherProblem (config.withRadius r) text d ↔ OtherProblem (config.withRadius r') text d := by
  have hids : (ofText (config.withRadius r) text none).idProblems =
      (ofText (config.withRadius r') text none).idProblems :=
    congrArg (repeatedIds []) (scenes_withRadius config text r r')
  rw [OtherProblem, OtherProblem, hids]
  simp only [BlockAnalysis.hierarchy_withRadius config _ r r',
    (BlockAnalysis.reading_withRadius config _ r r').2]

/-- A text has no errors exactly when no outline in its blocks has a problem and no other problem is
an error. -/
theorem forall_isError_eq_false_iff :
    (∀ d ∈ (ofText (config.withRadius r) text none).diagnostics, d.isError = false) ↔
      (∀ block ∈ blocksOf text, ((Grid.ofLines block.lines).detect r).problems = []) ∧
        ∀ d, OtherProblem (config.withRadius r) text d → d.isError = false := by
  constructor
  · intro hnone
    refine ⟨fun block hblock => ?_, fun d hd =>
      hnone d (mem_diagnostics_iff_outline_or_other.2 (.inr hd))⟩
    refine List.eq_nil_iff_forall_not_mem.2 fun e he => ?_
    have hmem : e.shifted block.offset ∈ (ofText (config.withRadius r) text none).diagnostics :=
      mem_diagnostics_iff_outline_or_other.2 (.inl ⟨block, hblock, e, he, rfl⟩)
    have hfalse := hnone _ hmem
    rw [Diagnostic.isError_shifted, Grid.isError_of_mem_detect he] at hfalse
    simp at hfalse
  · rintro ⟨houtlines, hother⟩ d hd
    rcases mem_diagnostics_iff_outline_or_other.1 hd with ⟨block, hblock, e, he, -⟩ | hd
    · have hnil : ((Grid.ofLines block.lines).detect (config.withRadius r).radius).problems = [] :=
        houtlines block hblock
      rw [hnil] at he
      simp at he
    · exact hother d hd

end Analysis

/-- A document is given exactly when it is that of the analysis and no problem is an error. -/
theorem Parsed.document_ofAnalysis_eq_some_iff {a : Analysis} {document : Document} :
    (ofAnalysis a).document = some document ↔
      a.document = document ∧ ∀ d ∈ a.diagnostics, d.isError = false := by
  have herrors : a.diagnostics.filter (·.isError) = [] ↔
      ∀ d ∈ a.diagnostics, d.isError = false := by
    rw [List.filter_eq_nil_iff]
    simp only [Bool.not_eq_true]
  show (if a.diagnostics.filter (·.isError) = [] then some a.document else none) = _ ↔ _
  rw [← herrors]
  split
  · next hnone => simp [hnone]
  · next herror => simp [herror]

/-- A document is given at a radius exactly when the same document is given at a smaller one and no
corner in any block is misread. -/
theorem Config.document_withRadius_iff (config : Config) (text : String) (document : Document)
    (r r' : Nat) (hle : r ≤ r') :
    ((config.withRadius r').parseText text).document = some document ↔
      ((config.withRadius r).parseText text).document = some document ∧
        ∀ block ∈ Analysis.blocksOf text, ∀ p, ¬ (Grid.ofLines block.lines).Misread r' p := by
  have hdocument : (Analysis.ofText (config.withRadius r) text none).document =
      (Analysis.ofText (config.withRadius r') text none).document :=
    congrArg Document.mk (Analysis.scenes_withRadius config text r r')
  have houtlines : ∀ block : Scene.Block,
      ((Grid.ofLines block.lines).detect r').problems = [] ↔
        ((Grid.ofLines block.lines).detect r).problems = [] ∧
          ∀ p, ¬ (Grid.ofLines block.lines).Misread r' p := fun block =>
    Grid.problems_eq_nil_iff_of_le (Int.natCast_nonneg r) (Int.ofNat_le.2 hle)
  simp only [parseText, Parsed.document_ofAnalysis_eq_some_iff,
    Analysis.forall_isError_eq_false_iff, Analysis.otherProblem_withRadius config text r' r,
    hdocument, houtlines, forall_and]
  tauto

/-- A scene of boxes that share sides and one of a box right inside another. -/
def sharedSidesText : String :=
  "+-A-+--+\n|[b]|  |\n+---+--+\n|   |\n+---+\n---\n@scene: c\n" ++
    "+---+\n|+-+|\n||d||\n|+-+|\n+---+"

/-- They give the same document at two radii. -/
theorem Config.document_withRadius_shared_sides :
    ∃ document,
      ((Config.default.withRadius 3).parseText sharedSidesText).document = some document ∧
      ((Config.default.withRadius 0).parseText sharedSidesText).document = some document := by
  have hsome : ((Config.default.withRadius 3).parseText sharedSidesText).document.isSome =
      true := by
    decide +kernel
  obtain ⟨document, hdocument⟩ := Option.isSome_iff_exists.1 hsome
  exact ⟨document, hdocument,
    ((document_withRadius_iff _ _ document 0 3 (by decide)).1 hdocument).1⟩

/-- A box inside another with a blank row between their bottom edges is accepted at radius zero
only. -/
theorem Config.success_withRadius_blank_row :
    ((Config.default.withRadius 0).parseText
        "+---+\n|+-+|\n|| ||\n|+-+|\n|   |\n+---+").success = true ∧
      ((Config.default.withRadius 3).parseText
        "+---+\n|+-+|\n|| ||\n|+-+|\n|   |\n+---+").success = false := by
  decide +kernel

end Wireframe
