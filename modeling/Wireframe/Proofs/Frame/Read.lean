import Wireframe.Proofs.Content.Runs
import Wireframe.Proofs.Content.Shape
import Wireframe.Proofs.Frame.Find

/-!
# Reading the box that was drawn

Drawing a box and reading the drawing gives the box back (`Config.parse_frame`). What is read in the
box is one element for each row, in the order of the rows (`forall₂_rowReadAs`): each row is found
again between its sides as it was given (`rowChars_row`), and there is no box inside that could
cover it. Only what is written in the rows can be wrong.
-/

namespace Wireframe

/-- What a row of a box is read as, if it stands on a line of a text. -/
inductive RowReadAs (number : Int) (row : Line) : Element → Prop where
  /-- A row of divider pieces only is a divider. -/
  | divider (hdivider : ∀ c ∈ row, c = '=') : RowReadAs number row (.divider ⟨number, 1⟩)
  /-- A blank row is a blank line. -/
  | spacer (hblank : Text.allBlank row = true) : RowReadAs number row (.spacer ⟨number, 1⟩)
  /-- Any other row is one element that is read from its content. -/
  | content (e : Element) (hmixed : ∃ c ∈ row, c ≠ '=') (hfilled : Text.allBlank row = false)
    (hcontent : e.isContent = true) (hplace : e.position?.map (·.row) = some number) :
    RowReadAs number row e
  /-- Or it is one row of controls. -/
  | controls (parts : List Element) (align : Alignment) (hmixed : ∃ c ∈ row, c ≠ '=')
    (hfilled : Text.allBlank row = false)
    (hparts : ∀ e ∈ parts, e.isControl = true ∧ e.position?.map (·.row) = some number) :
    RowReadAs number row (.row parts align)

namespace RowReadAs

variable {number : Int} {row : Line} {e : Element}

/-- A row that is something is read as a blank line if it is blank. -/
theorem isSpacer_iff (h : RowReadAs number row e) (hne : row ≠ []) :
    e.isSpacer = true ↔ Text.allBlank row = true := by
  cases h with
  | divider hdivider =>
    obtain ⟨c, rest, rfl⟩ := List.exists_cons_of_ne_nil hne
    obtain rfl := hdivider c List.mem_cons_self
    have hfilled : Text.isBlank '=' = false := by decide
    simp [Element.isSpacer, Text.allBlank, hfilled]
  | spacer hblank => simp [Element.isSpacer, hblank]
  | content e hmixed hfilled hcontent hplace =>
    cases e <;> simp_all [Element.isSpacer, Element.isContent]
  | controls parts align hmixed hfilled hparts => simp [Element.isSpacer, hfilled]

/-- A row is not read as a box. -/
theorem boxBounds?_eq_none (h : RowReadAs number row e) : e.boxBounds? = none := by
  cases h with
  | content e hmixed hfilled hcontent hplace =>
    exact Element.boxBounds?_of_isLeaf (Element.isLeaf_of_isContent hcontent)
  | _ => rfl

end RowReadAs

/-! ## Dividers -/

/-- A divider row has pieces of a divider, and nothing else, from side to side. -/
theorem Grid.isDividerRow_iff {g : Grid} {b : Bounds} {row : Int} :
    g.isDividerRow b row = true ↔ b.left + 1 < b.right ∧
      ∀ col, b.left < col → col < b.right → g.cellIs ⟨row, col⟩ .divider = true := by
  have hstep : ∀ n : Nat, (⟨row, b.left + 1⟩ : Position).step .right n = ⟨row, b.left + 1 + n⟩ :=
    fun _ => rfl
  unfold isDividerRow
  dsimp only
  rw [Bool.and_eq_true, decide_eq_true_eq, decide_eq_true_eq]
  constructor
  · rintro ⟨hinside, hrun⟩
    refine ⟨by omega, fun col hleft hright => ?_⟩
    obtain ⟨n, rfl⟩ : ∃ n : Nat, col = b.left + 1 + n := ⟨(col - (b.left + 1)).toNat, by omega⟩
    have hn : n < (g.scan .right ⟨row, b.left + 1⟩ fun cell =>
        decide (cell.kind = .divider)).length := by omega
    exact any_of_lt_length_walk hn
  · rintro ⟨hinside, hall⟩
    refine ⟨by omega, ?_⟩
    by_contra hshort
    -- A shorter run would end at a piece of a divider.
    have hstop := any_length_scan g .right ⟨row, b.left + 1⟩ fun cell =>
      decide (cell.kind = .divider)
    rw [hstep] at hstop
    have hcell := hall (b.left + 1 + (g.scan .right ⟨row, b.left + 1⟩ fun cell =>
      decide (cell.kind = .divider)).length) (by omega) (by omega)
    rw [cellIs, hstop] at hcell
    simp at hcell

/-- If entries of two lists are related one by one, all of the second list have a property if all of
the first have the one that goes with it. -/
theorem forall_mem_iff_of_forall₂ {α β : Type} {R : α → β → Prop} {P : α → Prop} {Q : β → Prop}
    {xs : List α} {ys : List β} (h : List.Forall₂ R xs ys)
    (hiff : ∀ x ∈ xs, ∀ y, R x y → (Q y ↔ P x)) : (∀ y ∈ ys, Q y) ↔ ∀ x ∈ xs, P x := by
  induction h with
  | nil => simp
  | @cons x y xs ys hxy _ ih =>
    rw [List.forall_mem_cons, List.forall_mem_cons, hiff x List.mem_cons_self y hxy,
      ih fun z hz => hiff z (List.mem_cons_of_mem x hz)]

/-! ## A box alone -/

/-- The nesting of one box is the box. -/
theorem Hierarchy.ofBoxes_singleton (maxDepth : Nat) (box : Box) :
    ofBoxes maxDepth [box] = ⟨[⟨0, box, none⟩], [.leaf box], [], []⟩ := by
  have hparent : Nesting.parentOf [box] box.bounds = none := by
    have hself : box.bounds.strictlyContains box.bounds = false := by
      simp [Bounds.strictlyContains]
    simp [Nesting.parentOf, hself]
  have hnested : Nesting.ofBoxes [box] = [⟨0, box, none⟩] := by
    simp [Nesting.ofBoxes, hparent]
  rw [ofBoxes, hnested]
  rfl

namespace Reader

variable {r : Reader} {b : Bounds} {row : Int}

/-- A row of content gives one element, read from content or made up of controls. -/
theorem exists_elements_contentRow (r : Reader) (row : Int) (b : Bounds) (text : Line) :
    ∃ e, (r.contentRow row b text).elements = [e] ∧
      (e.isContent = true ∨ ∃ parts align, e = .row parts align) := by
  unfold contentRow
  dsimp only
  split
  · split
    · exact ⟨_, rfl, .inr ⟨_, _, rfl⟩⟩
    · exact ⟨_, rfl, .inl (isContent_element r _ _ _ b)⟩
  · exact ⟨_, rfl, .inl (isContent_element r _ _ _ b)⟩

/-- Without boxes inside a box a row gives what stands on it. -/
theorem elements_interiorRow_nil (r : Reader) (b : Bounds) (row : Int) :
    (r.interiorRow b [] row).elements = r.ownRow row b := by
  rw [elements_interiorRow]
  rfl

end Reader

namespace Frame

/-- What the drawing of a box is read with. -/
def reader (f : Frame) (recognizers : List Recognizer) : Reader :=
  ⟨Grid.ofLines f.lines, (0 : Nat), recognizers⟩

/-- There are no lines in front of the drawing. -/
@[simp] theorem place_reader (f : Frame) (recognizers : List Recognizer) (row col : Int) :
    (f.reader recognizers).place row col = ⟨row, col⟩ := by
  simp [Reader.place, reader]

variable {f : Frame} {i : Nat} {row : Line} (recognizers : List Recognizer)

/-- A row stands between its sides as it was given. -/
theorem rowChars_row (hrow : f.rows[i]? = some row) :
    (f.reader recognizers).grid.rowChars (i + 1 : Nat) (f.bounds.left + 1)
      (some f.bounds.right) = row := by
  have hmem := f.isRow row (List.mem_of_getElem? hrow)
  have hline := getElem?_lines_iff.2 (.row i row hrow)
  have hlength : (fenced '|' row).length = f.width + 2 := by
    simp [fenced, hmem.length]
  have hchars : (Grid.ofLines f.lines).rowChars (i + 1 : Nat) (1 : Nat)
      (some ((f.width + 1 : Nat) : Int)) =
        Text.untab (((fenced '|' row).take (f.width + 1)).drop 1) :=
    Grid.rowChars_ofLines hline (by omega) (by omega)
  have htabs : '\t' ∉ row := fun h => hmem.plain _ h (by simp)
  have hinside : ((fenced '|' row).take (f.width + 1)).drop 1 = row := by
    rw [fenced, List.take_succ_cons, List.drop_one, List.tail_cons]
    exact List.take_left' hmem.length
  rw [hinside, Text.untab_of_not_mem htabs] at hchars
  exact hchars

/-- A row is a divider if it has nothing but divider pieces. -/
theorem isDividerRow_iff (hrow : f.rows[i]? = some row) :
    (f.reader recognizers).grid.isDividerRow f.bounds (i + 1 : Nat) = true ↔
      ∀ c ∈ row, c = '=' := by
  have hlength := (f.isRow row (List.mem_of_getElem? hrow)).length
  have hpos := f.width_pos
  have hcell : ∀ (j : Nat) (c : Char), row[j]? = some c →
      ((f.reader recognizers).grid.cellIs ⟨(i + 1 : Nat), (j + 1 : Nat)⟩ .divider = true ↔
        c = '=') := by
    intro j c hc
    rw [reader, Grid.cellIs_ofLines (getElem?_lines_iff.2 (.row i row hrow))
      (getElem?_fenced_iff.2 (.inr ⟨j, rfl, hc⟩)), decide_eq_true_eq]
    exact Cell.kind_ofChar_iff rfl
  rw [Grid.isDividerRow_iff]
  simp only [bounds]
  constructor
  · rintro ⟨-, hall⟩ c hc
    obtain ⟨j, hj⟩ := List.mem_iff_getElem?.1 hc
    have hlt := (List.getElem?_eq_some_iff.1 hj).1
    exact (hcell j c hj).1 (hall (j + 1 : Nat) (by omega) (by omega))
  · intro hall
    refine ⟨by omega, fun col hleft hright => ?_⟩
    obtain ⟨j, rfl⟩ : ∃ j : Nat, col = (j + 1 : Nat) := ⟨(col - 1).toNat, by omega⟩
    have hj := List.getElem?_eq_getElem (l := row) (i := j) (by omega)
    exact (hcell j _ hj).2 (hall _ (List.mem_of_getElem? hj))

/-- A row with content gives one element, which it is read as. -/
theorem exists_contentRow (hrow : f.rows[i]? = some row)
    (hmixed : ∃ c ∈ row, c ≠ '=') (hfilled : Text.allBlank row = false) :
    ∃ e, ((f.reader recognizers).contentRow (i + 1 : Nat) f.bounds row).elements = [e] ∧
      RowReadAs (i + 1 : Nat) row e := by
  have hchars := rowChars_row recognizers hrow
  have hplace : ∀ e, (f.reader recognizers).ReadOn (i + 1 : Nat) f.bounds e →
      e.position?.map (·.row) = some ((i + 1 : Nat) : Int) := by
    intro e hread
    obtain ⟨col, hposition, -⟩ := hread.position f.draws_bounds
    simp [hposition]
  obtain ⟨e, he, hshape⟩ := Reader.exists_elements_contentRow (f.reader recognizers)
    (i + 1 : Nat) f.bounds row
  refine ⟨e, he, ?_⟩
  have hmem : e ∈ ((f.reader recognizers).contentRow (i + 1 : Nat) f.bounds row).elements := by
    rw [he]
    exact List.mem_singleton_self e
  rw [← hchars] at hmem hfilled
  rcases Reader.mem_contentRow hfilled hmem with hread | ⟨parts, align, rfl, hcontrols⟩
  · rw [hchars] at hfilled
    rcases hshape with hcontent | ⟨parts, align, rfl⟩
    · exact .content e hmixed hfilled hcontent (hplace e hread)
    · exact absurd hread.isLeaf (by simp [Element.isLeaf])
  · rw [hchars] at hfilled
    exact .controls parts align hmixed hfilled fun e he =>
      ⟨hcontrols.controls e he, hplace e (hcontrols.readOn e he)⟩

/-- A row gives one element, which it is read as. -/
theorem exists_ownRow (hrow : f.rows[i]? = some row) :
    ∃ e, (f.reader recognizers).ownRow (i + 1 : Nat) f.bounds = [e] ∧
      RowReadAs (i + 1 : Nat) row e := by
  have hiff := isDividerRow_iff recognizers hrow
  by_cases hdivider : ∀ c ∈ row, c = '='
  · refine ⟨_, ?_, .divider hdivider⟩
    rw [Reader.ownRow, if_pos (hiff.2 hdivider), place_reader]
    rfl
  · rw [Reader.ownRow, if_neg (mt hiff.1 hdivider), Reader.row, rowChars_row recognizers hrow]
    by_cases hblank : Text.allBlank row = true
    · refine ⟨_, ?_, .spacer hblank⟩
      rw [if_pos hblank, place_reader]
      rfl
    · rw [if_neg hblank]
      exact exists_contentRow recognizers hrow (by simpa using hdivider) (by simpa using hblank)

/-- The rows inside the box are its rows, counted from one. -/
theorem innerRows_bounds (f : Frame) :
    Grid.innerRows f.bounds = (f.rows.zipIdx 1).map fun numbered => (numbered.2 : Int) := by
  have hcount : (f.rows.zipIdx 1).map (fun numbered => (numbered.2 : Int)) =
      ((f.rows.zipIdx 1).map Prod.snd).map fun n : Nat => (n : Int) := by
    rw [List.map_map]
    rfl
  have hnumber : (f.bounds.bottom - f.bounds.top - 1).toNat = f.rows.length := by
    simp only [bounds]
    omega
  rw [hcount, List.zipIdx_map_snd, List.range'_eq_map_range, List.map_map, Grid.innerRows, hnumber]
  refine List.map_congr_left fun i _ => ?_
  simp [bounds]

/-- What stands in the box is one element for each row, in the order of the rows. -/
theorem forall₂_rowReadAs (f : Frame) (recognizers : List Recognizer) :
    List.Forall₂ (fun numbered e => RowReadAs numbered.2 numbered.1 e) (f.rows.zipIdx 1)
      ((Grid.innerRows f.bounds).flatMap fun row =>
        ((f.reader recognizers).interiorRow f.bounds [] row).elements) := by
  rw [innerRows_bounds, List.flatMap_map]
  refine forall₂_flatMap ?_
  rintro ⟨row, number⟩ hnumbered
  obtain ⟨hle, hrow⟩ := List.mem_zipIdx_iff_le_and_getElem?_sub.1 hnumbered
  obtain ⟨i, rfl⟩ : ∃ i, number = i + 1 := ⟨number - 1, by dsimp only at hle; omega⟩
  dsimp only at hrow ⊢
  rw [Nat.add_sub_cancel] at hrow
  rw [Reader.elements_interiorRow_nil]
  exact exists_ownRow recognizers hrow

/-- The elements are what is in the box: none if all rows are blank, else one for each row, in the
order of the rows. -/
def Holds (f : Frame) (es : List Element) : Prop :=
  if ∀ row ∈ f.rows, Text.allBlank row = true then es = []
  else List.Forall₂ (fun numbered e => RowReadAs numbered.2 numbered.1 e) (f.rows.zipIdx 1) es

/-- What is read in the box is what is in it. -/
theorem holds_inside (f : Frame) (recognizers : List Recognizer) :
    f.Holds ((f.reader recognizers).inside (.leaf f.box)) := by
  have hall := f.forall₂_rowReadAs recognizers
  have hcontents : (f.reader recognizers).contents (.leaf f.box) =
      let all := (Grid.innerRows f.bounds).flatMap fun row =>
        ((f.reader recognizers).interiorRow f.bounds [] row).elements
      if all.all Element.isSpacer then [] else all := rfl
  rw [Reader.inside, hcontents]
  generalize (Grid.innerRows f.bounds).flatMap (fun row =>
    ((f.reader recognizers).interiorRow f.bounds [] row).elements) = all at hall
  have hblank : all.all Element.isSpacer = true ↔ ∀ row ∈ f.rows, Text.allBlank row = true := by
    have hrows : (∀ row ∈ f.rows, Text.allBlank row = true) ↔
        ∀ numbered ∈ f.rows.zipIdx 1, Text.allBlank numbered.1 = true := by
      conv_lhs => rw [← List.zipIdx_map_fst 1 f.rows, List.forall_mem_map]
    rw [List.all_eq_true, hrows]
    exact forall_mem_iff_of_forall₂ hall fun numbered hnumbered e hread =>
      hread.isSpacer_iff (row_ne_nil (List.fst_mem_of_mem_zipIdx hnumbered))
  have hboxes : ∀ e ∈ all, e.boxBounds? = none :=
    (forall_mem_iff_of_forall₂ (P := fun _ => True) hall fun _ _ _ hread =>
      iff_true_intro hread.boxBounds?_eq_none).2 fun _ _ => trivial
  unfold Holds
  dsimp only
  split
  · next hrows =>
    rw [if_pos (hblank.2 hrows)]
    rfl
  · next hrows =>
    rw [if_neg (mt hblank.1 hrows), Element.gatherRows_of_no_boxes hboxes]
    exact hall

/-! ## The whole text -/

/-- What reading the drawing of a box gives back. -/
structure ReadBack (f : Frame) (a : Analysis) (result : Parsed) : Prop where
  /-- Nothing is wrong but what is written in the rows. -/
  problems : ∀ d ∈ result.diagnostics, d.kind.ofContent = true
  /-- There is one block, with all lines of the drawing, and one box in it. -/
  found : ∃ block, a.blocks = [block] ∧ block.block = ⟨0, f.lines, []⟩ ∧
    block.detection.boxes = [f.box]
  /-- If nothing is wrong, there is one scene with the box in it. -/
  document : result.success = true → ∃ scene children, result.document = some ⟨[scene]⟩ ∧
    scene.id = "main" ∧ scene.elements = [.box f.bounds (f.name.map String.ofList) children] ∧
    f.Holds children

variable (config : Config) (f : Frame)

/-- The only box of the drawing is the only tree. -/
theorem hierarchy_ofBlock :
    (BlockAnalysis.ofBlock config ⟨0, f.lines, []⟩).hierarchy =
      ⟨[⟨0, f.box, none⟩], [.leaf f.box], [], []⟩ := by
  have hboxes : (BlockAnalysis.ofBlock config ⟨0, f.lines, []⟩).hierarchy =
      Hierarchy.ofBoxes config.maxNesting ((Grid.ofLines f.lines).detect config.radius).boxes := rfl
  rw [hboxes, boxes_detect, Hierarchy.ofBoxes_singleton]

/-- The scene of the drawing is the box. -/
theorem elements_ofBlock :
    (BlockAnalysis.ofBlock config ⟨0, f.lines, []⟩).scene.elements =
      [.box f.bounds (f.name.map String.ofList)
        ((f.reader config.recognizers).inside (.leaf f.box))] := by
  have hscene : (BlockAnalysis.ofBlock config ⟨0, f.lines, []⟩).scene.elements =
      ((f.reader config.recognizers).scene ⟨0, f.lines, []⟩
        (BlockAnalysis.ofBlock config ⟨0, f.lines, []⟩).hierarchy.trees).1.elements := rfl
  have hbox : (f.reader config.recognizers).boxElement (.leaf f.box) =
      .box (f.bounds.shifted 0) (f.name.map String.ofList)
        ((f.reader config.recognizers).inside (.leaf f.box)) := rfl
  rw [hscene, hierarchy_ofBlock, Reader.elements_scene, List.map_singleton, hbox,
    Bounds.shifted_zero]
  rfl

/-- What is wrong with the drawing, if anything, is written in the rows. -/
theorem ofContent_of_mem_diagnostics {d : Diagnostic}
    (hd : d ∈ (Analysis.ofText config f.text none).diagnostics) : d.kind.ofContent = true := by
  rcases Analysis.mem_diagnostics_iff.1 hd with htab | ⟨block, hblock, hd⟩ | hid | ⟨i, hi, -⟩
  · rw [linesOf_text, tabsIn_lines] at htab
    exact absurd htab List.not_mem_nil
  · rw [blocksOf_text, List.mem_singleton] at hblock
    subst hblock
    rcases BlockAnalysis.mem_diagnostics_iff.1 hd with ⟨e, he, -⟩ | ⟨e, he, -⟩ | hcontent
    · rw [f.problems_detect (Int.natCast_nonneg _)] at he
      exact absurd he List.not_mem_nil
    · rw [hierarchy_ofBlock] at he
      exact absurd he List.not_mem_nil
    · exact Reader.ofContent_of_mem_scene ⟨0, f.lines, []⟩ hcontent
  · have hids : ((Analysis.blocksOf f.text).map (·.sceneId)).Nodup := by
      rw [blocksOf_text]
      exact List.nodup_singleton _
    rw [Analysis.idProblems_eq_nil config hids] at hid
    exact absurd hid List.not_mem_nil
  · exact absurd hi (by simp [Analysis.ofText])

end Frame

/-- Without errors there is a document. -/
theorem Parsed.document_of_success {a : Analysis} (h : (ofAnalysis a).success = true) :
    (ofAnalysis a).document = some a.document :=
  if_pos (List.isEmpty_iff.1 h)

/-- Drawing a box and reading the drawing gives the box back, whatever its width, its rows and its
name. -/
theorem Config.parse_frame (config : Config) (f : Frame) :
    ∃ a, config.analyze f.text none = .ok a ∧ config.parse f.text none = .ok (.ofAnalysis a) ∧
      f.ReadBack a (.ofAnalysis a) := by
  have hblocks : (Analysis.ofText config f.text none).blocks =
      [BlockAnalysis.ofBlock config ⟨0, f.lines, []⟩] := by
    unfold Analysis.ofText
    dsimp only
    rw [f.blocksOf_text, List.map_singleton]
  refine ⟨.ofText config f.text none, rfl, rfl, fun d hd => ?_, ⟨_, hblocks, rfl, ?_⟩,
    fun hsuccess => ?_⟩
  · exact f.ofContent_of_mem_diagnostics config (Parsed.mem_diagnostics_iff.1 hd)
  · exact f.boxes_detect config.radius
  · refine ⟨(BlockAnalysis.ofBlock config ⟨0, f.lines, []⟩).scene, _, ?_, rfl,
      f.elements_ofBlock config, f.holds_inside config.recognizers⟩
    have hscenes : (Analysis.ofText config f.text none).scenes =
        [(BlockAnalysis.ofBlock config ⟨0, f.lines, []⟩).scene] := by
      rw [Analysis.scenes, hblocks]
      rfl
    rw [Parsed.document_of_success hsuccess, ← hscenes]
    rfl

/-- A box with a name that leaves no dashes behind it, and with a row of every kind. -/
def Frame.mixed : Frame where
  width := 11
  rows := ["[ok] \"more\"".toList, "===========".toList, "           ".toList,
    "| - é =x ] ".toList]
  name := some "a--b é".toList
  width_pos := by decide
  rows_ne_nil := List.cons_ne_nil _ _
  isRow := by decide
  isName := by
    rintro _ ⟨rfl⟩
    decide

/-- The drawing of the box with a row of every kind, and what is read in it. -/
theorem Config.parse_frame_mixed :
    Frame.mixed.text = "+--- a--b é +\n|[ok] \"more\"|\n|===========|\n|           |\n" ++
        "|| - é =x ] |\n+-----------+" ∧
      (∃ a, default.analyze Frame.mixed.text none = .ok a ∧
        default.parse Frame.mixed.text none = .ok (.ofAnalysis a) ∧
          Frame.mixed.ReadBack a (.ofAnalysis a)) ∧
      (default.parseText Frame.mixed.text).success = true ∧
      (default.parseText Frame.mixed.text).document.map (fun d =>
        d.elements.map Element.typeName) =
          some ["box", "row", "button", "link", "divider", "spacer", "text"] :=
  ⟨by decide +kernel, parse_frame default Frame.mixed, by decide +kernel, by decide +kernel⟩

end Wireframe
