import Wireframe.Proofs.Content.Levels
import Wireframe.Proofs.Places.Inside
import Wireframe.Proofs.Scenes

/-!
# Elements stand where the text has them

Every element of a scene stands at a place of the text where its written form begins, and a spacer
on a line that is blank up to the box around it (`elements_standIn`). The rows of a box are parts of
lines of the text (`Places/Inside.lean`), and what is read on a row stands there
(`Reader.ReadOn.standsIn`); the rest is a walk through the levels of a scene, which interactions
leave where they are (`levels_attachAll`).
-/

namespace Wireframe

open Text (charAt? StandsAt)

namespace Element

variable {lines : List Line} {around : Option Bounds} {e : Element} {p : Position}
  {content : Line}

/-- What the element is written as stands at its place in the lines of a text, of which a drawing
shows tabs as spaces. The innermost box around the element is given. -/
def StandsIn (lines : List Line) (around : Option Bounds) : Element → Prop
  | .box b _ _ => ∀ p, b.HasCorner p → charAt? lines p = some '+'
  | .button b => charAt? lines b.position = some '['
  | .checkbox c => charAt? lines c.position = some '['
  | .link l => charAt? lines l.position = some '"'
  | .input i => StandsAt lines i.position ('#' :: i.id.toList)
  | .text t =>
    if t.emphasis = true then charAt? lines t.position = some '*'
    else StandsAt (lines.map Text.untab) t.position t.content.toList
  | .divider p => charAt? lines p = some '='
  | .spacer p => ∃ b, around = some b ∧ p.col < b.right ∧
      ∀ col, p.col ≤ col → col < b.right →
        ∃ c, charAt? lines ⟨p.row, col⟩ = some c ∧ Text.isBlank c = true
  | .row _ _ => True

/-- An element that is written as content stands where the content stands. -/
theorem WrittenAs.standsIn (h : WrittenAs content p e)
    (hthere : StandsAt (lines.map Text.untab) p content) (around : Option Bounds) :
    e.StandsIn lines around := by
  have hmark : StandsAt (lines.map Text.untab) p e.mark := hthere.of_prefix h.mark
  -- Without a space the mark is the same in the text and in the drawing.
  have htext : ' ' ∉ e.mark → StandsAt lines p e.mark := hmark.of_untab
  have hposition := h.position
  have hfilled := h.filled
  cases e with
  | box b name children => simp [position?] at hposition
  | row children align => simp [position?] at hposition
  | spacer q => simp [isSpacer] at hfilled
  | button b =>
    obtain rfl : b.position = p := Option.some.inj hposition
    exact (htext (by simp [Element.mark])).charAt?
  | checkbox c =>
    obtain rfl : c.position = p := Option.some.inj hposition
    exact (htext (by simp [Element.mark])).charAt?
  | link l =>
    obtain rfl : l.position = p := Option.some.inj hposition
    exact (htext (by simp [Element.mark])).charAt?
  | divider q =>
    obtain rfl : q = p := Option.some.inj hposition
    exact (htext (by simp [Element.mark])).charAt?
  | input i =>
    obtain rfl : i.position = p := Option.some.inj hposition
    exact htext (h.unbroken.resolve_left (by simp [Element.isPlain]))
  | text t =>
    obtain rfl : t.position = p := Option.some.inj hposition
    show if t.emphasis = true then charAt? lines t.position = some '*'
      else StandsAt (lines.map Text.untab) t.position t.content.toList
    by_cases hemphasis : t.emphasis = true
    · have hstar : Element.mark (.text t) = ['*'] := if_pos hemphasis
      rw [if_pos hemphasis]
      rw [hstar] at htext
      exact (htext (by simp)).charAt?
    · have hwhole : Element.mark (.text t) = t.content.toList := if_neg hemphasis
      rw [if_neg hemphasis, ← hwhole]
      exact hmark

end Element

/-! ## Blocks -/

section Blocks

variable {b : Scene.Block} {text : List Line} {recognizers : List Recognizer} {box : Bounds}
  {row : Int} {e : Element}

/-- The corners of a box that is drawn in a block stand in the text. -/
theorem Scene.Block.CutFrom.charAt?_corner (h : b.CutFrom text)
    (hdraws : (Grid.ofLines b.lines).Draws box) {p : Position}
    (hp : (box.shifted b.offset).HasCorner p) : Text.charAt? text p = some '+' := by
  have hcorner : box.HasCorner ⟨p.row - b.offset, p.col⟩ := by
    unfold Bounds.HasCorner Bounds.shifted at *
    simp only at *
    omega
  have hplace := h.charAt? rfl (hdraws.corner hcorner)
  rw [Int.sub_add_cancel] at hplace
  exact hplace

/-- What is read on a row inside a drawn box stands in the text. -/
theorem Reader.ReadOn.standsIn (h : b.CutFrom text) (hdraws : (Grid.ofLines b.lines).Draws box)
    (hrow : row ∈ Grid.innerRows box)
    (hread : (⟨Grid.ofLines b.lines, b.offset, recognizers⟩ : Reader).ReadOn row box e) :
    e.StandsIn text (some (box.shifted b.offset)) := by
  cases hread with
  | divider hdivider => exact h.charAt?_of_divider hdivider
  | spacer hblank =>
    refine ⟨_, rfl, hdraws.left_add_one_lt_right, fun col hleft hright => ?_⟩
    exact h.blank_of_row hdraws hrow hblank (Int.lt_of_add_one_le hleft) hright
  | content k content hcontent hthere =>
    exact (Reader.writtenAs_element _ content row _ box).standsIn
      (h.standsAt_of_row hdraws hrow hthere) _

/-- What stands on the levels of a block's scene stands in the text that the block was cut from. -/
theorem BlockAnalysis.standsIn_of_mem_levels {config : Config} (h : b.CutFrom text)
    {l : Element.Level} (hl : l ∈ Element.levels (ofBlock config b).scene.elements)
    (he : e ∈ l.held) : e.StandsIn text l.around := by
  have hbox : ∀ {u : BoxTree} (around : Option Bounds),
      u ∈ BoxTree.subtreesOfAll (ofBlock config b).hierarchy.trees →
        ((⟨Grid.ofLines b.lines, b.offset, config.recognizers⟩ : Reader).boxElement u).StandsIn text
          around := fun around hu p hp => h.charAt?_corner (draws_of_mem_subtrees hu) hp
  rcases Reader.levels_scene hl with rfl | ⟨u, hu, rfl⟩
  · rcases Reader.mem_openedAll_roots he with ⟨t, ht, rfl⟩ | ⟨run, align, rfl, -⟩
    · exact hbox none (BoxTree.mem_subtreesOfAll_of_mem ht)
    · trivial
  · cases Reader.holds_of_mem_opened he with
    | box c hc => exact hbox _ (BoxTree.child_mem_subtreesOfAll hu hc)
    | own _ row hrow hread => exact hread.standsIn h (draws_of_mem_subtrees hu) hrow.mem
    | controls => trivial
    | boxes => trivial

end Blocks

/-! ## Interactions -/

namespace Interaction

open Element

variable {interactions : List Interaction} {e : Element} {es : List Element}

/-- Attaching interactions to several elements attaches them to each. -/
theorem attachAll_eq_map (interactions : List Interaction) (es : List Element) :
    attachAll interactions es = es.map (attach interactions) := by
  induction es with
  | nil => rfl
  | cons e es ih => rw [attachAll, ih, List.map_cons]

/-- Attaching interactions puts nothing into an element. -/
theorem isLeaf_attach (interactions : List Interaction) (e : Element) :
    (attach interactions e).isLeaf = e.isLeaf := by
  cases e <;> simp [attach, isLeaf]

/-- A walk through an element with interactions attached meets the same elements. -/
theorem walk_attach (interactions : List Interaction) (e : Element) :
    walk (attach interactions e) = (walk e).map (attach interactions) := by
  have hall : ∀ es : List Element,
      (∀ x ∈ es, walk (attach interactions x) = (walk x).map (attach interactions)) →
        walkAll (attachAll interactions es) = (walkAll es).map (attach interactions) := by
    intro es h
    rw [attachAll_eq_map, walkAll_eq_flatMap, walkAll_eq_flatMap, List.flatMap_map,
      List.map_flatMap]
    exact List.flatMap_congr h
  induction e using inductionOn with
  | leaf e he =>
    rw [walk_of_isLeaf he, walk_of_isLeaf (by rw [isLeaf_attach, he])]
    rfl
  | box b name children ih =>
    rw [walk, List.map_cons, ← hall children ih, attach, walk]
  | row children align ih =>
    rw [walk, List.map_cons, ← hall children ih, attach, walk]

/-- An element with interactions attached opens to the same elements. -/
theorem opened_attach (interactions : List Interaction) (e : Element) :
    opened (attach interactions e) = (opened e).map (attach interactions) := by
  induction e using inductionOn with
  | leaf e he =>
    rw [opened_of_isLeaf he, opened_of_isLeaf (by rw [isLeaf_attach, he])]
    rfl
  | box b name children ih => rfl
  | row children align ih =>
    rw [attach, opened, opened, List.map_cons, attach, attachAll_eq_map, openedAll_eq_flatMap,
      openedAll_eq_flatMap, List.flatMap_map, List.map_flatMap]
    exact congrArg _ (List.flatMap_congr ih)

/-- Several elements with interactions attached open to the same elements. -/
theorem openedAll_attachAll (interactions : List Interaction) (es : List Element) :
    openedAll (attachAll interactions es) = (openedAll es).map (attach interactions) := by
  rw [attachAll_eq_map, openedAll_eq_flatMap, openedAll_eq_flatMap, List.flatMap_map,
    List.map_flatMap]
  exact List.flatMap_congr fun e _ => opened_attach interactions e

/-- The level inside a box holds the same elements with interactions attached. -/
theorem level?_attach (interactions : List Interaction) (e : Element) :
    level? (attach interactions e) =
      (level? e).map fun l => ⟨l.around, l.held.map (attach interactions)⟩ := by
  cases e <;> simp [attach, level?, openedAll_attachAll]

/-- A walk through several elements with interactions attached meets the same elements. -/
theorem walkAll_attachAll (interactions : List Interaction) (es : List Element) :
    walkAll (attachAll interactions es) = (walkAll es).map (attach interactions) := by
  rw [attachAll_eq_map, walkAll_eq_flatMap, walkAll_eq_flatMap, List.flatMap_map, List.map_flatMap]
  exact List.flatMap_congr fun e _ => walk_attach interactions e

/-- Elements with interactions attached stand on the same levels. -/
theorem levels_attachAll (interactions : List Interaction) (es : List Element) :
    levels (attachAll interactions es) =
      (levels es).map fun l => ⟨l.around, l.held.map (attach interactions)⟩ := by
  unfold levels
  rw [openedAll_attachAll, walkAll_attachAll, List.filterMap_map, List.map_cons, List.map_filterMap]
  exact congrArg _ (List.filterMap_congr fun e _ => level?_attach interactions e)

/-- An element with interactions attached stands where it stood. -/
theorem standsIn_attach {lines : List Line} {around : Option Bounds}
    (h : e.StandsIn lines around) (interactions : List Interaction) :
    (attach interactions e).StandsIn lines around := by
  cases e with
  | button b =>
    have hposition : (attachButton interactions b).position = b.position := by
      unfold attachButton
      split <;> rfl
    show charAt? lines (attachButton interactions b).position = some '['
    rw [hposition]
    exact h
  | _ => exact h

end Interaction

/-! ## Documents -/

/-- The scenes of a document are those of the blocks of its text, with or without interactions
attached. -/
theorem Analysis.exists_block_of_mem_scenes {config : Config} {text : String}
    {interactions : Option (InteractionReader × String)} {s : Scene}
    (h : s ∈ (ofText config text interactions).document.scenes) :
    ∃ block ∈ blocksOf text,
      s.elements = (BlockAnalysis.ofBlock config block).scene.elements ∨
        ∃ given, s.elements =
          Interaction.attachAll given (BlockAnalysis.ofBlock config block).scene.elements := by
  have hscenes : ∀ {s : Scene}, s ∈ (ofText config text interactions).scenes →
      ∃ block ∈ blocksOf text, s = (BlockAnalysis.ofBlock config block).scene := by
    intro s hs
    obtain ⟨a, ha, rfl⟩ := List.mem_map.1 hs
    obtain ⟨block, hblock, rfl⟩ := List.mem_map.1 ha
    exact ⟨block, hblock, rfl⟩
  cases interactions with
  | none =>
    obtain ⟨block, hblock, rfl⟩ := hscenes h
    exact ⟨block, hblock, .inl rfl⟩
  | some given =>
    obtain ⟨s', hs', rfl⟩ := List.mem_map.1 h
    obtain ⟨block, hblock, rfl⟩ := hscenes hs'
    exact ⟨block, hblock, .inr ⟨_, rfl⟩⟩

/-- When a text is read without errors, under any settings and with any interactions, every element
of every scene stands on a level, and what stands on a level is written in the lines of the text at
its place there. -/
theorem Config.elements_standIn (config : Config) (text : String) (interactions : Option String)
    (result : Parsed) (hparse : config.parse text interactions = .ok result)
    (hsuccess : result.success = true) :
    ∃ document, result.document = some document ∧ ∀ s ∈ document.scenes,
      (∀ e ∈ Element.walkAll s.elements, ∃ l ∈ Element.levels s.elements, e ∈ l.held) ∧
        ∀ l ∈ Element.levels s.elements, ∀ e ∈ l.held,
          e.StandsIn (Analysis.linesOf text) l.around := by
  obtain ⟨given, rfl⟩ := exists_analysis hparse
  have hnone : (bySeverity (Analysis.ofText config text given).diagnostics).1 = [] :=
    List.isEmpty_iff.1 hsuccess
  refine ⟨(Analysis.ofText config text given).document, if_pos hnone, fun s hs => ?_⟩
  refine ⟨fun e he => Element.mem_walkAll_iff.1 he, fun l hl e he => ?_⟩
  obtain ⟨block, hblock, helements⟩ := Analysis.exists_block_of_mem_scenes hs
  have hcut : block.CutFrom (Analysis.linesOf text) := Scene.Block.cutFrom_of_mem_ofText hblock
  rcases helements with heq | ⟨attached, heq⟩
  · rw [heq] at hl
    exact BlockAnalysis.standsIn_of_mem_levels hcut hl he
  · rw [heq, Interaction.levels_attachAll] at hl
    obtain ⟨drawn, hdrawn, rfl⟩ := List.mem_map.1 hl
    obtain ⟨e', he', rfl⟩ := List.mem_map.1 he
    have hstands : e'.StandsIn (Analysis.linesOf text) drawn.around :=
      BlockAnalysis.standsIn_of_mem_levels hcut hdrawn he'
    exact Interaction.standsIn_attach hstands attached

/-- Elements of every kind, one of them with a tab in it, in a scene with a blank line, and one more
in a scene further down. -/
def everyKindText : String :=
  "+------+\r\n|[A]\"b\"|\n| #c   |\n|[x] d |\n|* e f |\n|g\th   |\n|======|\n" ++
    "|      |\n+------+\n---\n@scene: next\n+-+\n|i|\n+-+"

/-- Each of them stands where its text is written, the blank line up to the border of its box. -/
theorem Config.elements_standIn_every_kind :
    (∃ document, (default.parseText everyKindText).document = some document ∧
      ∀ s ∈ document.scenes,
        (∀ e ∈ Element.walkAll s.elements, ∃ l ∈ Element.levels s.elements, e ∈ l.held) ∧
          ∀ l ∈ Element.levels s.elements, ∀ e ∈ l.held,
            e.StandsIn (Analysis.linesOf everyKindText) l.around) ∧
      (default.parseText everyKindText).document.map
          (fun document => document.scenes.map fun s => (Element.walkAll s.elements).map fun e =>
            (e.typeName, e.position?)) =
        some
          [[("box", none), ("row", none), ("button", some ⟨1, 1⟩), ("link", some ⟨1, 4⟩),
              ("input", some ⟨2, 2⟩), ("checkbox", some ⟨3, 1⟩), ("text", some ⟨4, 1⟩),
              ("text", some ⟨5, 1⟩), ("divider", some ⟨6, 1⟩), ("spacer", some ⟨7, 1⟩)],
            [("box", none), ("text", some ⟨12, 1⟩)]] := by
  have hsuccess : (default.parseText everyKindText).success = true := by decide +kernel
  exact ⟨elements_standIn default _ none _ (parse_none default _) hsuccess, by decide +kernel⟩

end Wireframe
