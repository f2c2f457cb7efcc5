import Mathlib.Data.List.Forall2
import Wireframe.Proofs.Content.Rectangles
import Wireframe.Proofs.Problems

/-!
# A successful parse loses no box

When a text is read without errors, there is one scene for each of its blocks, and the boxes in the
scene are those drawn in the block, each once (`scenes_show_blocks`).

Four stages have a part in this. Without errors every outline that failed was silenced, so every
corner that may begin a box belongs to a drawn one; the boxes found are the boxes drawn; the forest
made of them holds each once, as they do not overlap; and reading the trees keeps the rectangles.
-/

namespace Wireframe

/-- The scene shows what is drawn in a block: its boxes have the rectangles of the boxes drawn
there, at their place in the text and each once, and no corner with a piece of a horizontal edge to
its right is left over. -/
structure Scene.Shows (s : Scene) (block : Scene.Block) : Prop where
  /-- No rectangle comes twice. -/
  nodup : (Element.rectangles s.elements).Nodup
  /-- The rectangles are those of the boxes drawn. -/
  mem_iff : ∀ rect, rect ∈ Element.rectangles s.elements ↔
    ∃ b, (Grid.ofLines block.lines).Draws b ∧ rect = b.shifted block.offset
  /-- Every corner that may begin a box is a corner of one. -/
  corners : ∀ (row col : Nat) (cs : Line), block.lines[row]? = some cs →
    cs[col]? = some '+' → cs[col + 1]? = some '-' →
      ∃ b, (Grid.ofLines block.lines).Draws b ∧ b.HasCorner ⟨row, col⟩

/-- Different rectangles are different after moving. -/
theorem Bounds.shifted_injective (rows : Int) : Function.Injective fun b : Bounds =>
    b.shifted rows := by
  intro a b h
  simp only [shifted, Bounds.mk.injEq] at h
  exact Bounds.ext (by omega) (by omega) (by omega) (by omega)

/-! ## Trees of the boxes found -/

namespace Hierarchy

variable (maxDepth : Nat) (g : Grid) (radius : Int)

/-- Since the boxes found in a drawing do not overlap, its trees are all trees of these boxes. -/
theorem trees_detect : (ofBoxes maxDepth (g.detect radius).boxes).trees =
    Nesting.trees (Nesting.ofBoxes (g.detect radius).boxes) :=
  trees_ofBoxes (Grid.errors_ofBoxes_detect g radius maxDepth)

/-- The trees of a drawing hold the boxes found in it, each once. -/
theorem boxes_trees_perm :
    (BoxTree.boxesOfAll (ofBoxes maxDepth (g.detect radius).boxes).trees).Perm
      (g.detect radius).boxes := by
  rw [trees_detect]
  exact Nesting.boxes_trees_perm fun box hbox => (Grid.draws_of_mem_detect hbox).valid

/-- The trees of a drawing are well nested. -/
theorem wellNested_trees :
    ∀ t ∈ (ofBoxes maxDepth (g.detect radius).boxes).trees, t.WellNested := by
  rw [trees_detect]
  exact Nesting.wellNested_trees _

variable {maxDepth g radius}

/-- The boxes at the roots of the subtrees of a drawing are drawn in it. -/
theorem draws_of_mem_subtrees {u : BoxTree}
    (h : u ∈ BoxTree.subtreesOfAll (ofBoxes maxDepth (g.detect radius).boxes).trees) :
    g.Draws u.box.bounds := by
  refine Grid.draws_of_mem_detect ((boxes_trees_perm maxDepth g radius).mem_iff.1 ?_)
  rw [← BoxTree.map_box_subtreesOfAll]
  exact List.mem_map_of_mem h

end Hierarchy

namespace BlockAnalysis

variable {config : Config} {block : Scene.Block}

/-- Since the boxes of a block do not overlap, its trees are all trees of these boxes. -/
theorem trees_ofBlock (config : Config) (block : Scene.Block) :
    (ofBlock config block).hierarchy.trees =
      Nesting.trees (Nesting.ofBoxes (ofBlock config block).detection.boxes) :=
  Hierarchy.trees_detect config.maxNesting (Grid.ofLines block.lines) config.radius

/-- The trees of a block hold the boxes found in it, each once. -/
theorem boxes_trees_perm (config : Config) (block : Scene.Block) :
    (BoxTree.boxesOfAll (ofBlock config block).hierarchy.trees).Perm
      (ofBlock config block).detection.boxes :=
  Hierarchy.boxes_trees_perm config.maxNesting (Grid.ofLines block.lines) config.radius

/-- The boxes at the roots of the subtrees of a block are drawn in it. -/
theorem draws_of_mem_subtrees {u : BoxTree}
    (h : u ∈ BoxTree.subtreesOfAll (ofBlock config block).hierarchy.trees) :
    (Grid.ofLines block.lines).Draws u.box.bounds :=
  Hierarchy.draws_of_mem_subtrees h

/-- The trees of a block are well nested. -/
theorem wellNested_trees (config : Config) (block : Scene.Block) :
    ∀ t ∈ (ofBlock config block).hierarchy.trees, t.WellNested :=
  Hierarchy.wellNested_trees config.maxNesting (Grid.ofLines block.lines) config.radius

/-- The scene of a block has the rectangles of the boxes found in it. -/
theorem rectangles_scene (config : Config) (block : Scene.Block) :
    (Element.rectangles (ofBlock config block).scene.elements).Perm
      (((ofBlock config block).detection.boxes.map (·.bounds)).map fun b =>
        b.shifted block.offset) := by
  have hperm := boxes_trees_perm config block
  have hvalid : ∀ box ∈ BoxTree.boxesOfAll (ofBlock config block).hierarchy.trees,
      box.bounds.Valid := fun box hbox =>
    (Grid.draws_of_mem_detect (hperm.mem_iff.1 hbox)).valid
  have hread := Reader.rectangles_scene
    (r := ⟨Grid.ofLines block.lines, block.offset, config.recognizers⟩) block
    (wellNested_trees config block) hvalid
  rw [List.map_map]
  exact hread.trans (hperm.map _)

/-- Without problems among its outlines the scene of a block shows the block. -/
theorem shows_scene (h : (ofBlock config block).detection.problems = []) :
    (ofBlock config block).scene.Shows block := by
  have hperm := rectangles_scene config block
  refine ⟨?_, fun rect => ?_, fun row col cs hline hcorner hopening => ?_⟩
  · refine hperm.nodup_iff.2 ?_
    exact (Grid.nodup_bounds_detect _ _).map (Bounds.shifted_injective _)
  · rw [hperm.mem_iff, List.mem_map]
    constructor
    · rintro ⟨b, hb, rfl⟩
      exact ⟨b, Grid.mem_bounds_detect_iff.1 hb, rfl⟩
    · rintro ⟨b, hb, rfl⟩
      exact ⟨b, Grid.mem_bounds_detect_iff.2 hb, rfl⟩
  · have hcandidate : (⟨row, col⟩ : Position) ∈ (Grid.ofLines block.lines).candidates := by
      refine Grid.mem_candidates_iff.2 ⟨?_, ?_⟩
      · rw [Grid.cellIs_ofLines hline hcorner]
        rfl
      · exact (Grid.cellIs_ofLines hline hopening).trans rfl
    exact Grid.hasCorner_of_no_problems h hcandidate

end BlockAnalysis

/-- What a scene shows depends on its rectangles only. -/
theorem Scene.Shows.of_rectangles_eq {s s' : Scene} {block : Scene.Block} (h : s.Shows block)
    (heq : Element.rectangles s'.elements = Element.rectangles s.elements) : s'.Shows block where
  nodup := heq ▸ h.nodup
  mem_iff := fun rect => heq ▸ h.mem_iff rect
  corners := h.corners

/-- The scenes of a document have the rectangles of those of its blocks, as attaching interactions
hides nothing. -/
theorem Analysis.rectangles_document (config : Config) (text : String)
    (interactions : Option (InteractionReader × String)) :
    List.Forall₂ (fun block (scene : Scene) => Element.rectangles scene.elements =
        Element.rectangles (BlockAnalysis.ofBlock config block).scene.elements)
      (blocksOf text) (ofText config text interactions).document.scenes := by
  have hscenes : List.Forall₂ (fun block (scene : Scene) => Element.rectangles scene.elements =
        Element.rectangles (BlockAnalysis.ofBlock config block).scene.elements)
      (blocksOf text) (((blocksOf text).map (BlockAnalysis.ofBlock config)).map (·.scene)) := by
    rw [List.map_map]
    exact List.forall₂_map_right_iff.2 (List.forall₂_same.2 fun _ _ => rfl)
  cases interactions with
  | none => exact hscenes
  | some given =>
    refine List.forall₂_map_right_iff.2 (hscenes.imp fun block scene heq => ?_)
    exact (Interaction.rectangles_attachAll _ _).trans heq

/-- The scenes of a document show the blocks of its text, if all blocks are shown without
interactions. -/
theorem Analysis.scenes_show {config : Config} {text : String}
    {interactions : Option (InteractionReader × String)}
    (h : ∀ block ∈ blocksOf text, (BlockAnalysis.ofBlock config block).scene.Shows block) :
    List.Forall₂ (fun block scene => Scene.Shows scene block) (blocksOf text)
      (ofText config text interactions).document.scenes :=
  ((List.forall₂_and_left _ _).2 ⟨h, rectangles_document config text interactions⟩).imp
    fun _ _ ⟨hshows, heq⟩ => hshows.of_rectangles_eq heq

/-- A text that is read without errors, under any settings and with any interactions, gives a
document with one scene for each block of the text, and each scene shows its block. -/
theorem Config.scenes_show_blocks (config : Config) (text : String) (interactions : Option String)
    (result : Parsed) (hparse : config.parse text interactions = .ok result)
    (hsuccess : result.success = true) :
    ∃ document, result.document = some document ∧
      List.Forall₂ (fun block scene => Scene.Shows scene block) (Analysis.blocksOf text)
        document.scenes := by
  obtain ⟨given, rfl⟩ := exists_analysis hparse
  have hnone : (bySeverity (Analysis.ofText config text given).diagnostics).1 = [] :=
    List.isEmpty_iff.1 hsuccess
  refine ⟨(Analysis.ofText config text given).document, if_pos hnone, ?_⟩
  refine Analysis.scenes_show fun block hblock => BlockAnalysis.shows_scene ?_
  -- A problem of the block would be an error of the document.
  refine List.eq_nil_iff_forall_not_mem.2 fun d hd => ?_
  have hshifted : d.shifted block.offset ∈ (BlockAnalysis.ofBlock config block).diagnostics := by
    simp only [BlockAnalysis.diagnostics, List.mem_append]
    exact .inl (.inl (.inl (List.mem_map_of_mem hd)))
  have hmem : d.shifted block.offset ∈ (Analysis.ofText config text given).diagnostics := by
    simp only [Analysis.diagnostics, List.mem_append]
    exact .inl (.inl (.inr (List.mem_flatMap.2
      ⟨BlockAnalysis.ofBlock config block, List.mem_map_of_mem hblock, hshifted⟩)))
  have herror : (d.shifted block.offset).isError = true := by
    rw [Diagnostic.isError_shifted]
    exact Grid.isError_of_mem_detect hd
  have hfound : d.shifted block.offset ∈
      (bySeverity (Analysis.ofText config text given).diagnostics).1 :=
    List.mem_filter.2 ⟨hmem, herror⟩
  rw [hnone] at hfound
  exact absurd hfound List.not_mem_nil

/-- A box inside another in the first scene and a box in the second one. -/
def nestedText : String := "+---+\n|+-+|\n|| ||\n|+-+|\n+---+\n---\n@scene: next\n+-+\n|a|\n+=+"

/-- Its scenes show these three boxes and no others. -/
theorem Config.scenes_show_blocks_two_scenes :
    (∃ document, (default.parseText nestedText).document = some document ∧
      List.Forall₂ (fun block scene => Scene.Shows scene block) (Analysis.blocksOf nestedText)
        document.scenes) ∧
      (default.parseText nestedText).document.map
          (fun document => document.scenes.map fun s => Element.rectangles s.elements) =
        some [[⟨0, 0, 4, 4⟩, ⟨1, 1, 3, 3⟩], [⟨7, 0, 9, 2⟩]] := by
  have hsuccess : (default.parseText nestedText).success = true := by decide +kernel
  exact ⟨scenes_show_blocks default _ none _ (parse_none default _) hsuccess, by decide +kernel⟩

end Wireframe
