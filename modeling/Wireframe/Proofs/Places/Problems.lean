import Wireframe.Proofs.Places.Blocks
import Wireframe.Proofs.Places.Inside
import Wireframe.Proofs.Scenes
import Wireframe.Proofs.Shift

/-!
# Problems point at what they name

`PointsAt` says for each kind of problem what stands at the places that it names: a tab, pieces of
edges and corners, the content that cannot be read, the lines that identify two scenes. Every
problem that is found in a text points at what it names there, and its own place is on a line of the
text (`diagnostics_pointAt`). Each stage finds its problems in a block, and a block says how far
down in the text it stands (`Scene.Block.CutFrom`), so that what stands in the block stands in the
text.
-/

namespace Wireframe

open Text (charAt? StandsAt)

namespace Text

/-- The position lies on a line, maybe behind its end. -/
def OnLine (lines : List Line) (p : Position) : Prop :=
  0 ≤ p.row ∧ p.row < lines.length ∧ 0 ≤ p.col

variable {lines : List Line} {p : Position}

/-- A row of a text and a column are on a line. -/
theorem onLine_of_lt {row col : Nat} (h : row < lines.length) : OnLine lines ⟨row, col⟩ :=
  ⟨Int.natCast_nonneg row, Int.ofNat_lt.2 h, Int.natCast_nonneg col⟩

/-- Where a character stands is a line. -/
theorem onLine_of_charAt? {c : Char} (h : charAt? lines p = some c) : OnLine lines p := by
  obtain ⟨row, col, chars, rfl, hline, -⟩ := charAt?_eq_some_iff.1 h
  exact onLine_of_lt (List.getElem?_eq_some_iff.1 hline).1

/-- Content stands on a line. -/
theorem StandsAt.onLine {content : Line} (h : StandsAt lines p content) : OnLine lines p := by
  obtain ⟨row, col, chars, rfl, hline, -⟩ := h
  exact onLine_of_lt (List.getElem?_eq_some_iff.1 hline).1

end Text

namespace Diagnostic

/-- What the problem names stands where it says, in the lines of a text with the given blocks. -/
inductive PointsAt (lines : List Line) (blocks : List Scene.Block) : Diagnostic → Prop where
  /-- The first tab of a line. -/
  | tab (row : Nat) (before rest : Line) (hline : lines[row]? = some (before ++ '\t' :: rest))
    (hfirst : '\t' ∉ before) :
    PointsAt lines blocks
      (.unusualSpacing ⟨row, before.length⟩ (String.ofList (before ++ '\t' :: rest)))
  /-- A piece of a vertical edge; none stands on its line in the column where it is expected. -/
  | pipe (row expected actual : Int) (hpiece : charAt? lines ⟨row, actual⟩ = some '|')
    (hmissing : charAt? lines ⟨row, expected⟩ ≠ some '|') (hexpected : 0 ≤ expected) :
    PointsAt lines blocks (.misalignedPipe ⟨row, actual⟩ expected actual)
  /-- The corners of two edges that do not match. -/
  | width (top left right bottom bottomLeft bottomRight topWidth bottomWidth : Int)
    (htopLeft : charAt? lines ⟨top, left⟩ = some '+')
    (htopRight : charAt? lines ⟨top, right⟩ = some '+')
    (hbottomLeft : charAt? lines ⟨bottom, bottomLeft⟩ = some '+')
    (hbottomRight : charAt? lines ⟨bottom, bottomRight⟩ = some '+') :
    PointsAt lines blocks
      (.mismatchedWidth ⟨top, left⟩ topWidth bottomWidth right bottom bottomLeft bottomRight)
  /-- A place where an edge breaks off. -/
  | unclosed (edge : Edge) (p start : Position) (hplace : Text.OnLine lines p) :
    PointsAt lines blocks (.unclosedBox edge p start)
  /-- A corner of the box that lies too deep. -/
  | deep (p : Position) (depth maxDepth : Int) (hcorner : charAt? lines p = some '+') :
    PointsAt lines blocks (.deepNesting p depth maxDepth)
  /-- The content that cannot be read, tabs read as spaces. -/
  | content (kind : Diagnostic.Kind) (p : Position) (content : Line)
    (hkind : kind.ofContent = true) (hfilled : content ≠ [])
    (hthere : StandsAt (lines.map Text.untab) p content) :
    PointsAt lines blocks (.syntaxError kind p (String.ofList content))
  /-- The line of a block, and that of the first block with the same identifier in front of it. -/
  | sceneId (earlier later : List Scene.Block) (repeated first : Scene.Block)
    (row firstRow : Nat) (hblocks : blocks = earlier ++ repeated :: later)
    (hfirst : (earlier.find? fun b => decide (b.sceneId = repeated.sceneId)) = some first)
    (hrow : repeated.IdentifiedAt lines row) (hfirstRow : first.IdentifiedAt lines firstRow) :
    PointsAt lines blocks (.duplicateSceneId repeated.sceneId ⟨row, 0⟩ ⟨firstRow, 0⟩)

/-- A problem that points at what it names is itself placed on a line. -/
theorem PointsAt.onLine {lines : List Line} {blocks : List Scene.Block} {d : Diagnostic}
    (h : d.PointsAt lines blocks) : Text.OnLine lines d.position := by
  cases h with
  | tab row before rest hline hfirst =>
    exact Text.onLine_of_lt (List.getElem?_eq_some_iff.1 hline).1
  | pipe row expected actual hpiece hmissing hexpected => exact Text.onLine_of_charAt? hpiece
  | width top left right bottom bottomLeft bottomRight topWidth bottomWidth h1 h2 h3 h4 =>
    exact Text.onLine_of_charAt? h1
  | unclosed edge p start hplace => exact hplace
  | deep p depth maxDepth hcorner => exact Text.onLine_of_charAt? hcorner
  | content kind p content hkind hfilled hthere =>
    obtain ⟨hrow, hlast, hcol⟩ := hthere.onLine
    rw [List.length_map] at hlast
    exact ⟨hrow, hlast, hcol⟩
  | sceneId earlier later repeated first row firstRow hblocks hfirst hrow hfirstRow =>
    exact Text.onLine_of_lt hrow.lt_length

end Diagnostic

/-! ## Tabs -/

/-- A problem with a tab points at the first one of a line. -/
theorem Analysis.pointsAt_of_mem_tabsIn {lines : List Line} {d : Diagnostic} (h : d ∈ tabsIn lines)
    (blocks : List Scene.Block) : d.PointsAt lines blocks := by
  obtain ⟨⟨line, row⟩, hmem, htab⟩ := List.mem_filterMap.1 h
  have hline : lines[row]? = some line := List.mk_mem_zipIdx_iff_getElem?.1 hmem
  dsimp only at htab
  unfold tabProblem? at htab
  split at htab
  · next hfound =>
    obtain ⟨before, rest, rfl, hfirst⟩ := List.eq_append_cons_of_mem hfound
    have hindex : (before ++ '\t' :: rest).idxOf '\t' = before.length := by
      rw [List.idxOf_append_of_notMem hfirst, List.idxOf_cons_self, Nat.add_zero]
    rw [hindex] at htab
    rw [← Option.some.inj htab]
    exact .tab row before rest hline hfirst
  · simp at htab

/-! ## Blocks -/

section Blocks

variable {b : Scene.Block} {text : List Line} {d : Diagnostic}

/-- What is wrong with an outline in a block points at cells, which are characters of the text. -/
theorem Grid.Fault.pointsAt (hcut : b.CutFrom text) (hspan : b.SpanOf text)
    (h : (Grid.ofLines b.lines).Fault d) (blocks : List Scene.Block) :
    (d.shifted b.offset).PointsAt text blocks := by
  cases h with
  | unclosed edge p start hplace =>
    obtain ⟨hrow, hheight, hcol⟩ := hplace
    -- The drawing has as many rows as its block has lines, and these are lines of the text.
    have hlines : (Grid.ofLines b.lines).height = b.lines.length := List.length_map ..
    have hwithin := hspan.within
    rw [Diagnostic.shifted_unclosedBox]
    refine .unclosed edge _ _ ⟨?_, ?_, hcol⟩
    · simp only [Position.shifted]
      omega
    · simp only [Position.shifted]
      omega
  | misaligned row expected actual hpiece hmissing hexpected =>
    rw [Diagnostic.shifted_misalignedPipe]
    exact .pipe _ _ _ (hcut.charAt? rfl hpiece) (hcut.charAt?_ne rfl hpiece hmissing) hexpected
  | mismatched top left right bottom bottomLeft bottomRight h1 h2 h3 h4 =>
    rw [Diagnostic.shifted_mismatchedWidth]
    exact .width _ _ _ _ _ _ _ _ (hcut.charAt? rfl h1) (hcut.charAt? rfl h2)
      (hcut.charAt? rfl h3) (hcut.charAt? rfl h4)

/-- A warning of boxes that lie too deep points at a corner of one of them. -/
theorem Nesting.pointsAt_of_mem_depthWarnings (hcut : b.CutFrom text) {boxes : List Box}
    (hdraws : ∀ box ∈ boxes, (Grid.ofLines b.lines).Draws box.bounds) {maxDepth : Nat}
    (h : d ∈ depthWarnings maxDepth (ofBoxes boxes)) (blocks : List Scene.Block) :
    (d.shifted b.offset).PointsAt text blocks := by
  obtain ⟨n, hn, depth, -, rfl⟩ := exists_of_mem_depthWarnings h
  have hbox : n.box ∈ boxes := List.mem_of_getElem? (mem_ofBoxes_iff.1 hn).1
  rw [Diagnostic.shifted_deepNesting]
  exact .deep _ depth maxDepth (hcut.charAt? rfl (hdraws n.box hbox).topLeft)

/-- A problem with content on a row inside a drawn box points at the content in the text. -/
theorem Reader.pointsAt_of_mem_row (hcut : b.CutFrom text) {recognizers : List Recognizer}
    {box : Bounds} (hdraws : (Grid.ofLines b.lines).Draws box) {row : Int}
    (hrow : row ∈ Grid.innerRows box)
    (h : d ∈ ((⟨Grid.ofLines b.lines, b.offset, recognizers⟩ : Reader).row row box).problems)
    (blocks : List Scene.Block) : d.PointsAt text blocks := by
  obtain ⟨kind, k, content, hkind, hfilled, hthere, rfl⟩ := exists_of_mem_row h
  exact .content kind _ content hkind hfilled (hcut.standsAt_of_row hdraws hrow hthere)

/-- The problems of a block point at what they name in the text that the block was cut from. -/
theorem BlockAnalysis.pointsAt_of_mem_diagnostics {config : Config} (hcut : b.CutFrom text)
    (hspan : b.SpanOf text) (h : d ∈ (ofBlock config b).diagnostics) (blocks : List Scene.Block) :
    d.PointsAt text blocks := by
  rcases mem_diagnostics_iff.1 h with ⟨e, he, rfl⟩ | ⟨e, he, rfl⟩ | hcontent
  · exact (Grid.fault_of_mem_detect he).pointsAt hcut hspan blocks
  · exact Nesting.pointsAt_of_mem_depthWarnings hcut (fun _ => Grid.draws_of_mem_detect) he blocks
  · obtain ⟨box, hbox, row, hrow, hd⟩ := Reader.exists_row_of_mem_scene b hcontent
    have hdraws := Grid.draws_of_mem_detect ((boxes_trees_perm config b).mem_iff.1 hbox)
    exact Reader.pointsAt_of_mem_row hcut hdraws hrow hd blocks

end Blocks

/-! ## Repeated identifiers -/

namespace Analysis

variable {seen : List (String × Position)} {passed scenes : List Scene} {s : Scene}
  {d : Diagnostic}

/-- What was seen of the scenes passed so far is each identifier, where it was first. -/
def SeenIn (passed : List Scene) (seen : List (String × Position)) : Prop :=
  ∀ id, seen.lookup id = (passed.find? fun s => decide (s.id = id)).map fun s => ⟨s.line, 0⟩

/-- Nothing is new of a scene whose identifier was seen. -/
theorem SeenIn.known (h : SeenIn passed seen) {first : Position}
    (hknown : seen.lookup s.id = some first) : SeenIn (passed ++ [s]) seen := by
  intro id
  rw [List.find?_append, h id]
  -- Only of its own identifier could the scene be the first.
  by_cases hid : s.id = id
  · subst hid
    rw [h s.id] at hknown
    obtain ⟨t, ht, -⟩ := Option.map_eq_some_iff.1 hknown
    rw [ht, Option.some_or]
  · rw [List.find?_singleton, if_neg (by simpa using hid), Option.or_none]

/-- With one more scene, its identifier is seen there unless it was seen before. -/
theorem SeenIn.concat (h : SeenIn passed seen) (s : Scene) :
    SeenIn (passed ++ [s]) (seen ++ [(s.id, ⟨s.line, 0⟩)]) := by
  intro id
  rw [List.find?_append, List.lookup_append, h id, Option.map_or]
  congr 1
  by_cases hid : s.id = id
  · subst hid
    rw [List.lookup_cons_self, List.find?_singleton, if_pos (by simp), Option.map_some]
  · have hne : (id == s.id) = false := by simpa using Ne.symm hid
    rw [List.lookup_cons, hne, List.find?_singleton, if_neg (by simpa using hid)]
    rfl

/-- Of a scene with a repeated identifier, the first scene with that identifier is in front. -/
theorem exists_of_mem_repeatedIds (hseen : SeenIn passed seen) (h : d ∈ repeatedIds seen scenes) :
    ∃ before s after first, scenes = before ++ s :: after ∧
      ((passed ++ before).find? fun t => decide (t.id = s.id)) = some first ∧
        d = .duplicateSceneId s.id ⟨s.line, 0⟩ ⟨first.line, 0⟩ := by
  induction scenes generalizing passed seen with
  | nil => simp [repeatedIds] at h
  | cons t rest ih =>
    -- What is found behind a scene has that scene in front.
    have hbehind : ∀ seen, SeenIn (passed ++ [t]) seen → d ∈ repeatedIds seen rest →
        ∃ before s after first, t :: rest = before ++ s :: after ∧
          ((passed ++ before).find? fun u => decide (u.id = s.id)) = some first ∧
            d = .duplicateSceneId s.id ⟨s.line, 0⟩ ⟨first.line, 0⟩ := by
      intro seen hseen h
      obtain ⟨before, s, after, first, rfl, hfirst, hd⟩ := ih hseen h
      exact ⟨t :: before, s, after, first, rfl, by simpa using hfirst, hd⟩
    rw [repeatedIds] at h
    split at h
    · next place hknown =>
      rcases List.mem_cons.1 h with rfl | h
      · rw [hseen t.id] at hknown
        obtain ⟨first, hfirst, rfl⟩ := Option.map_eq_some_iff.1 hknown
        exact ⟨[], t, rest, first, rfl, by simpa using hfirst, rfl⟩
      · exact hbehind seen (hseen.known hknown) h
    · exact hbehind _ (hseen.concat t) h

/-- A problem with a repeated identifier points at the lines of the two blocks. -/
theorem pointsAt_of_mem_idProblems {config : Config} {text : String}
    (h : d ∈ (ofText config text none).idProblems) :
    d.PointsAt (linesOf text) (blocksOf text) := by
  have hscenes : (ofText config text none).idProblems =
      repeatedIds [] ((blocksOf text).map fun b => (BlockAnalysis.ofBlock config b).scene) := by
    show repeatedIds [] (List.map _ (List.map _ _)) = _
    rw [List.map_map]
    rfl
  rw [hscenes] at h
  -- The scene and the first one with its identifier are those of two blocks.
  have hnone : SeenIn [] [] := fun _ => rfl
  obtain ⟨before, s, after, first, hsplit, hfirst, rfl⟩ := exists_of_mem_repeatedIds hnone h
  obtain ⟨earlier, rest, hblocks, rfl, hrest⟩ := List.map_eq_append_iff.1 hsplit
  obtain ⟨repeated, later, rfl, rfl, -⟩ := List.map_eq_cons_iff.1 hrest
  rw [List.nil_append, List.find?_map] at hfirst
  obtain ⟨b, hb, rfl⟩ := Option.map_eq_some_iff.1 hfirst
  have hearlier : b ∈ earlier := List.mem_of_find?_eq_some hb
  have hmany : 1 < (blocksOf text).length := by
    rw [hblocks, List.length_append, List.length_cons]
    have hpos := List.length_pos_of_mem hearlier
    omega
  -- Both blocks have something in them, so their lines are lines of the text.
  have hline : ∀ c ∈ blocksOf text, c.IdentifiedAt (linesOf text) c.sceneLine := fun c hc =>
    Scene.Block.identifiedAt_sceneLine hmany hc
  refine .sceneId earlier later repeated b _ _ hblocks hb (hline repeated ?_) (hline b ?_)
  · rw [hblocks]
    simp
  · rw [hblocks]
    exact List.mem_append_left _ hearlier

end Analysis

/-! ## Whole texts -/

/-- Reading any text under any settings gives a result, and every problem in it is placed on a line
of the text and points at what it names there. -/
theorem Config.diagnostics_pointAt (config : Config) (text : String) :
    ∃ result, config.parse text none = .ok result ∧ ∀ d ∈ result.diagnostics,
      Text.OnLine (Analysis.linesOf text) d.position ∧
        d.PointsAt (Analysis.linesOf text) (Analysis.blocksOf text) := by
  refine ⟨config.parseText text, config.parse_none text, fun d hd => ?_⟩
  have hpoints : d.PointsAt (Analysis.linesOf text) (Analysis.blocksOf text) := by
    rcases Analysis.mem_diagnostics_iff.1 (Parsed.mem_diagnostics_iff.1 hd) with
      htab | ⟨block, hblock, hfound⟩ | hid | ⟨i, hi, -⟩
    · exact Analysis.pointsAt_of_mem_tabsIn htab _
    · exact BlockAnalysis.pointsAt_of_mem_diagnostics (Scene.Block.cutFrom_of_mem_ofText hblock)
        (Scene.Block.spanOf_of_mem_ofText hblock) hfound _
    · exact Analysis.pointsAt_of_mem_idProblems hid
    · simp [Analysis.ofText] at hi
  exact ⟨hpoints.onLine, hpoints⟩

/-- Problems of all kinds but overlaps, most of them in the second of two blocks. -/
theorem Config.diagnostics_pointAt_two_blocks :
    (∃ result, Config.parse ⟨0, 3, none, Recognizer.all⟩ faultyText none = .ok result ∧
      ∀ d ∈ result.diagnostics, Text.OnLine (Analysis.linesOf faultyText) d.position ∧
        d.PointsAt (Analysis.linesOf faultyText) (Analysis.blocksOf faultyText)) ∧
      (Config.parseText ⟨0, 3, none, Recognizer.all⟩ faultyText).diagnostics.map
          (fun d => (d.kind, d.position)) =
        [(.misalignedPipe, ⟨13, 3⟩), (.mismatchedWidth, ⟨12, 0⟩), (.unclosedBox, ⟨15, 0⟩),
          (.emptyButton, ⟨7, 1⟩), (.unclosedBracket, ⟨8, 1⟩), (.invalidElement, ⟨9, 1⟩),
          (.duplicateSceneId, ⟨5, 0⟩), (.unusualSpacing, ⟨10, 1⟩), (.deepNesting, ⟨1, 1⟩)] :=
  ⟨diagnostics_pointAt _ _, by decide +kernel⟩

end Wireframe
