import Wireframe.Proofs.Content.Levels
import Wireframe.Proofs.Content.Runs
import Wireframe.Proofs.Nesting.Ancestry
import Wireframe.Proofs.Scenes

/-!
# The shape of a scene

What may be relied on in every document that is read without errors (`document_wellShaped`): scenes
have different identifiers, boxes lie strictly inside those around them and apart from those beside
them, everything else stands strictly inside its box and beside no box in it, and a row is made of
boxes of one height or of buttons and links on one line.

That boxes on one level are apart comes from the drawing, in which boxes with the same containers do
not overlap (`Nesting.apart_children`). What a row inside a box gives of its own is told by
`Reader.Holds`, and no box inside covers the row.
-/

namespace Wireframe

namespace Element

/-- The first of two boxes ends before the second one begins, and both have the same rows. -/
def Beside (a c : Element) : Prop :=
  ∃ x y, a.boxBounds? = some x ∧ c.boxBounds? = some y ∧ x.top = y.top ∧ x.bottom = y.bottom ∧
    x.left < x.right ∧ x.right ≤ y.left

/-- The elements may make up a row. -/
inductive RowShaped (children : List Element) : Prop where
  /-- They are boxes of one height, from left to right. -/
  | boxes (several : 2 ≤ children.length) (ordered : children.Pairwise Beside)
  /-- They are buttons and links on one line, from left to right. -/
  | controls (several : 2 ≤ children.length) (controls : ∀ e ∈ children, e.isControl = true)
    (ordered : children.Pairwise LeftOf)

/-- The elements of a level are where they may be. -/
structure Level.WellShaped (l : Level) : Prop where
  /-- Boxes do not overlap. -/
  apart : l.boxes.Pairwise fun a c => a.overlaps c = false
  /-- What has a position stands strictly inside the box around the level, above or below every box
  of the level. -/
  placed : ∀ e ∈ l.held, ∀ p, e.position? = some p → ∃ b, l.around = some b ∧
    b.top < p.row ∧ p.row < b.bottom ∧ b.left < p.col ∧ p.col < b.right ∧
      ∀ c ∈ l.boxes, ¬ (c.top ≤ p.row ∧ p.row ≤ c.bottom)

end Element

/-- The elements of a scene are where they may be. -/
structure Scene.WellShaped (s : Scene) : Prop where
  /-- A box lies strictly inside every box around it. -/
  nested : ∀ b name children, .box b name children ∈ Element.walkAll s.elements →
    ∀ c ∈ Element.rectangles children, b.strictlyContains c = true
  /-- On every level elements are where they may be. -/
  levels : ∀ l ∈ Element.levels s.elements, l.WellShaped
  /-- Every row is made of what may stand in one. -/
  rows : ∀ children align, .row children align ∈ Element.walkAll s.elements →
    Element.RowShaped children
  /-- No row stands directly in a row. -/
  unnested : ∀ children align, .row children align ∈ Element.walkAll s.elements →
    ∀ inner align', .row inner align' ∉ children
  /-- A box that is not empty has more inside than blank lines. -/
  filled : ∀ b name children, .box b name children ∈ Element.walkAll s.elements →
    children ≠ [] → ∃ e ∈ children, e.isSpacer = false

/-! ## Rows -/

namespace Element

variable {e : Element} {es run : List Element}

/-- What has nothing inside is no box. -/
theorem boxBounds?_of_isLeaf (h : e.isLeaf = true) : e.boxBounds? = none := by
  cases e <;> simp_all [isLeaf, boxBounds?]

/-- A box beside one that is beside a third is beside the third. -/
instance : Trans Beside Beside Beside where
  trans := by
    rintro a c d ⟨x, y, hx, hy, htop, hbottom, hcols, hright⟩
      ⟨y', z, hy', hz, htop', hbottom', hcols', hright'⟩
    rw [hy, Option.some.injEq] at hy'
    rw [← hy'] at htop' hbottom' hcols' hright'
    exact ⟨x, z, hx, hz, htop.trans htop', hbottom.trans hbottom', hcols, by omega⟩

/-- Boxes that continue one another are beside each other. -/
theorem pairwise_beside (hrun : run ∈ es.splitBy continuesRow)
    (hcols : ∀ e ∈ es, ∀ x, e.boxBounds? = some x → x.left < x.right) : run.Pairwise Beside := by
  have hmem : ∀ e ∈ run, e ∈ es := by
    intro e he
    rw [← List.flatten_splitBy (r := continuesRow) (l := es)]
    exact List.mem_flatten.2 ⟨run, hrun, he⟩
  have hchain := isChain_of_mem_splitBy hrun
  clear hrun
  refine List.IsChain.pairwise ?_
  induction run with
  | nil => exact .nil
  | cons a run ih =>
    cases run with
    | nil => exact .singleton a
    | cons c run =>
      obtain ⟨⟨x, y, hx, hy, htop, hbottom, hright⟩, hrest⟩ := List.isChain_cons_cons.1 hchain
      refine List.isChain_cons_cons.2
        ⟨?_, ih (fun e he => hmem e (List.mem_cons_of_mem a he)) hrest⟩
      exact ⟨x, y, hx, hy, htop, hbottom, hcols a (hmem a List.mem_cons_self) x hx, hright⟩

/-- Each of several elements of which any two are related is related to some other one. -/
theorem exists_related {R : Element → Element → Prop} (h : es.Pairwise R) (hlen : 2 ≤ es.length)
    (he : e ∈ es) : ∃ x, R e x ∨ R x e := by
  match es, hlen with
  | a :: c :: rest, _ =>
    obtain ⟨hfirst, -⟩ := List.pairwise_cons.1 h
    rcases List.mem_cons.1 he with rfl | he
    · exact ⟨c, .inl (hfirst c List.mem_cons_self)⟩
    · exact ⟨a, .inr (hfirst e he)⟩

/-- No row stands in a row. -/
theorem RowShaped.row_not_mem (h : RowShaped es) (inner : List Element) (align : Alignment) :
    .row inner align ∉ es := by
  intro hmem
  cases h with
  | boxes several ordered =>
    -- Everything in a row of boxes is a box.
    obtain ⟨x, ⟨a, -, ha, -⟩ | ⟨-, a, -, ha, -⟩⟩ := exists_related ordered several hmem
    · simp [boxBounds?] at ha
    · simp [boxBounds?] at ha
  | controls _ controls _ => simpa [isControl] using controls _ hmem

end Element

/-! ## What stands on a level -/

namespace Grid

/-- A part of a row is not longer than the columns from its start to its end. -/
theorem length_rowChars_le (g : Grid) (row : Int) {start stop : Int} (hstart : 0 ≤ start)
    (hstop : start ≤ stop) : ((g.rowChars row start (some stop)).length : Int) ≤ stop - start := by
  unfold rowChars
  split
  · split
    · next cells _ =>
      have hfirst := Text.clipOffset_of_nonneg (n := cells.length) hstart
      have hlast := Text.clipOffset_of_nonneg (n := cells.length) (hstart.trans hstop)
      unfold Text.slice
      dsimp only
      rw [List.length_map, List.length_drop, List.length_take, hfirst, hlast]
      omega
    · simp only [List.length_nil]
      omega
  · simp only [List.length_nil]
    omega

end Grid

namespace Reader

open Element

variable {r : Reader} {t u : BoxTree} {e : Element} {b : Bounds} {row : Int}

/-- What is read on a row inside a drawn box stands on that row, between the sides of the box. -/
theorem ReadOn.position (h : r.ReadOn row b e) (hdraws : r.grid.Draws b) :
    ∃ col, e.position? = some (r.place row col) ∧ b.left < col ∧ col < b.right := by
  have hcols := hdraws.left_add_one_lt_right
  obtain ⟨-, -, hleft, -⟩ := Grid.bounds_of_cellIs hdraws.topLeft
  dsimp only at hleft
  cases h with
  | divider hdivider => exact ⟨b.left + 1, rfl, by omega, hcols⟩
  | spacer hblank => exact ⟨b.left + 1, rfl, by omega, hcols⟩
  | content k content hcontent hthere =>
    refine ⟨b.left + 1 + k, (writtenAs_element r content row _ b).position, by omega, ?_⟩
    have hstart : 0 ≤ b.left + 1 := by omega
    have hlength := r.grid.length_rowChars_le row hstart hcols.le
    -- Something stands in the column, so the row reaches it.
    have hfits := hthere.length_le
    have hpos := List.length_pos_iff.2 hcontent
    rw [List.length_drop] at hfits
    omega

/-- The boxes on the level inside a box are those of the trees directly inside. -/
theorem exists_child_of_mem_boxes {around : Option Bounds} {x : Bounds}
    (h : x ∈ (⟨around, openedAll (r.inside t)⟩ : Level).boxes) :
    ∃ c ∈ t.children, x = c.box.bounds.shifted r.offset := by
  obtain ⟨e, he, hx⟩ := List.mem_filterMap.1 h
  cases holds_of_mem_opened he with
  | box c hc => exact ⟨c, hc, (Option.some.inj hx).symm⟩
  | own _ row hrow hread =>
    rw [boxBounds?_of_isLeaf hread.isLeaf] at hx
    exact absurd hx (by simp)
  | controls => exact absurd hx (by simp [boxBounds?])
  | boxes => exact absurd hx (by simp [boxBounds?])

/-- The boxes at the top of a scene are those at the roots of its trees. -/
theorem exists_root_of_mem_boxes {around : Option Bounds} {container x : Bounds}
    {roots : List BoxTree}
    (h : x ∈ (⟨around, openedAll (gatherRows container (roots.map r.boxElement))⟩ : Level).boxes) :
    ∃ t ∈ roots, x = t.box.bounds.shifted r.offset := by
  obtain ⟨e, he, hx⟩ := List.mem_filterMap.1 h
  rcases mem_openedAll_roots he with ⟨t, ht, rfl⟩ | ⟨run, align, rfl, -⟩
  · exact ⟨t, ht, (Option.some.inj hx).symm⟩
  · exact absurd hx (by simp [boxBounds?])

/-- A box that is read from a tree of drawn boxes has a right edge to the right of its left one. -/
theorem left_lt_right_of_boxElement (hdraws : r.grid.Draws t.box.bounds) {x : Bounds}
    (hx : (r.boxElement t).boxBounds? = some x) : x.left < x.right := by
  have hbounds : t.box.bounds.shifted r.offset = x := Option.some.inj hx
  rw [← hbounds]
  exact hdraws.left_lt_right

/-- A row on the level inside a box is made of what may stand in a row. -/
theorem Holds.rowShaped {children : List Element} {align : Alignment}
    (h : r.Holds t (.row children align))
    (hdraws : ∀ c ∈ t.children, r.grid.Draws c.box.bounds) : RowShaped children := by
  generalize hrow : Element.row children align = e at h
  cases h with
  | box c hc => exact absurd hrow (by simp [boxElement])
  | own _ row _ hread =>
    have hleaf := hread.isLeaf
    rw [← hrow] at hleaf
    exact absurd hleaf (by simp [isLeaf])
  | controls parts _ row _ hparts =>
    rw [Element.row.injEq] at hrow
    rw [hrow.1]
    exact .controls hparts.several hparts.controls hparts.ordered
  | boxes run _ hrun hseveral =>
    rw [Element.row.injEq] at hrow
    rw [hrow.1]
    refine .boxes hseveral (pairwise_beside hrun fun e he x hx => ?_)
    rcases mem_contents he with ⟨c, hc, rfl⟩ | ⟨row, -, hown⟩
    · exact left_lt_right_of_boxElement (hdraws c hc) hx
    · rcases mem_ownRow hown with hread | ⟨parts, align, rfl, -⟩
      · rw [boxBounds?_of_isLeaf hread.isLeaf] at hx
        exact absurd hx (by simp)
      · exact absurd hx (by simp [boxBounds?])

/-- If a box is not empty, not everything in it is a blank line. -/
theorem exists_not_isSpacer_inside (h : r.inside t ≠ []) :
    ∃ e ∈ r.inside t, e.isSpacer = false := by
  have hcontents : r.contents t ≠ [] := by
    intro hnil
    unfold inside at h
    rw [hnil] at h
    exact h rfl
  obtain ⟨x, hx, hfilled⟩ : ∃ x ∈ r.contents t, x.isSpacer = false := by
    unfold contents at hcontents ⊢
    dsimp only at hcontents ⊢
    split at hcontents
    · exact absurd rfl hcontents
    · next hall =>
      rw [if_neg hall]
      obtain ⟨x, hx, hfilled⟩ := List.all_eq_false.1 (Bool.eq_false_iff.2 hall)
      exact ⟨x, hx, Bool.eq_false_iff.2 hfilled⟩
  exact exists_not_isSpacer_gatherRows _ hx hfilled

end Reader

/-! ## Nested boxes -/

namespace BoxTree

variable {t u : BoxTree}

/-- Everything inside a well nested tree lies strictly inside the box at its root. -/
theorem WellNested.strictlyContains (h : t.WellNested) :
    ∀ box ∈ t.children.flatMap boxes, t.box.bounds.strictlyContains box.bounds = true := by
  induction h with
  | mk box children hinside _ ih =>
    intro inner hinner
    obtain ⟨c, hc, hmem⟩ := List.mem_flatMap.1 hinner
    rw [boxes_eq] at hmem
    rcases List.mem_cons.1 hmem with rfl | hmem
    · exact hinside c hc
    · exact Bounds.strictlyContains_trans (hinside c hc) (ih c hc inner hmem)

/-- The subtrees of a well nested tree are well nested. -/
theorem WellNested.subtree (h : t.WellNested) (hu : u ∈ t.subtrees) : u.WellNested := by
  induction h with
  | mk box children hinside hchildren ih =>
    rw [subtrees_eq] at hu
    rcases List.mem_cons.1 hu with rfl | hu
    · exact .mk box children hinside hchildren
    · obtain ⟨c, hc, hu⟩ := List.mem_flatMap.1 hu
      exact ih c hc hu

end BoxTree

/-- Moving two rectangles alike keeps one strictly inside the other. -/
theorem Bounds.strictlyContains_shifted (a b : Bounds) (rows : Int) :
    (a.shifted rows).strictlyContains (b.shifted rows) = a.strictlyContains b := by
  rw [Bool.eq_iff_iff, strictlyContains_iff, strictlyContains_iff]
  simp only [shifted]
  omega

/-- Moving two rectangles alike makes them overlap no more and no less. -/
theorem Bounds.overlaps_shifted (a b : Bounds) (rows : Int) :
    (a.shifted rows).overlaps (b.shifted rows) = a.overlaps b := by
  rw [Bool.eq_iff_iff, overlaps_iff, overlaps_iff]
  simp only [shifted]
  omega

/-! ## Scenes -/

namespace BlockAnalysis

open Element

variable {config : Config} {block : Scene.Block}

/-- No rectangle comes twice in the scene of a block. -/
theorem nodup_rectangles_scene (config : Config) (block : Scene.Block) :
    (rectangles (ofBlock config block).scene.elements).Nodup := by
  refine (rectangles_scene config block).nodup_iff.2 ?_
  exact (Grid.nodup_bounds_detect _ _).map (Bounds.shifted_injective _)

/-- The boxes on one level of a block's scene do not overlap. -/
theorem apart_of_mem_levels {l : Level} (hl : l ∈ levels (ofBlock config block).scene.elements) :
    l.boxes.Pairwise fun a c => a.overlaps c = false := by
  have hlaminar : Nesting.PairwiseLaminar (ofBlock config block).detection.boxes :=
    Grid.pairwise_laminar_detect _ _
  have hvalid : ∀ box ∈ (ofBlock config block).detection.boxes, box.bounds.Valid :=
    fun box hbox => (Grid.draws_of_mem_detect hbox).valid
  have hnodup := (boxes_sublist_rectangles hl).nodup (nodup_rectangles_scene config block)
  refine hnodup.pairwise_of_forall_ne fun a ha c hc hne => ?_
  rcases Reader.levels_scene hl with rfl | ⟨u, hu, rfl⟩
  · obtain ⟨t, ht, rfl⟩ := Reader.exists_root_of_mem_boxes ha
    obtain ⟨v, hv, rfl⟩ := Reader.exists_root_of_mem_boxes hc
    rw [Bounds.overlaps_shifted]
    have hroots := trees_ofBlock config block
    exact Nesting.apart_roots hlaminar (hroots ▸ ht) (hroots ▸ hv) fun heq => hne (by rw [heq])
  · obtain ⟨t, ht, rfl⟩ := Reader.exists_child_of_mem_boxes ha
    obtain ⟨v, hv, rfl⟩ := Reader.exists_child_of_mem_boxes hc
    rw [Bounds.overlaps_shifted]
    have hroots := trees_ofBlock config block
    exact Nesting.apart_children hlaminar hvalid (hroots ▸ hu) ht hv fun heq => hne (by rw [heq])

/-- The levels of a block's scene are well shaped. -/
theorem wellShaped_of_mem_levels {l : Level}
    (hl : l ∈ levels (ofBlock config block).scene.elements) : l.WellShaped := by
  refine ⟨apart_of_mem_levels hl, fun e he p hp => ?_⟩
  rcases Reader.levels_scene hl with rfl | ⟨u, hu, rfl⟩
  · -- At the top of a scene there are boxes and rows only.
    rcases Reader.mem_openedAll_roots he with ⟨t, -, rfl⟩ | ⟨run, align, rfl, -⟩
    · exact absurd hp (by simp [Reader.boxElement, position?])
    · exact absurd hp (by simp [position?])
  · cases Reader.holds_of_mem_opened he with
    | box c hc => exact absurd hp (by simp [Reader.boxElement, position?])
    | controls => exact absurd hp (by simp [position?])
    | boxes => exact absurd hp (by simp [position?])
    | own _ row hrow hread =>
      obtain ⟨col, hcol, hleft, hright⟩ := hread.position (draws_of_mem_subtrees hu)
      rw [hcol, Option.some.injEq] at hp
      obtain ⟨htop, hbottom⟩ := Reader.mem_innerRows_iff.1 hrow.mem
      rw [← hp]
      refine ⟨_, rfl, ?_, ?_, hleft, hright, fun c hc => ?_⟩
      · simp only [Reader.place, Bounds.shifted]
        omega
      · simp only [Reader.place, Bounds.shifted]
        omega
      · obtain ⟨v, hv, rfl⟩ := Reader.exists_child_of_mem_boxes hc
        have hfree := hrow.free v hv
        simp only [Reader.place, Bounds.shifted]
        omega

/-- Every box of a block's scene lies strictly inside the boxes around it. -/
theorem strictlyContains_of_mem_scene {b : Bounds} {name : Option String} {children : List Element}
    (h : .box b name children ∈ walkAll (ofBlock config block).scene.elements) {c : Bounds}
    (hc : c ∈ rectangles children) : b.strictlyContains c = true := by
  obtain ⟨u, hu, heq⟩ := Reader.exists_subtree_of_mem_scene h
  have hnested : u.WellNested := by
    rw [BoxTree.subtreesOfAll_eq_flatMap] at hu
    obtain ⟨t, ht, hu⟩ := List.mem_flatMap.1 hu
    exact (wellNested_trees config block t ht).subtree hu
  have hvalid : ∀ box ∈ u.boxes, box.bounds.Valid := by
    intro box hbox
    rw [← BoxTree.map_box_subtrees] at hbox
    obtain ⟨v, hv, rfl⟩ := List.mem_map.1 hbox
    exact (draws_of_mem_subtrees ((BoxTree.subtrees_sublist_subtreesOfAll hu).subset hv)).valid
  -- The rectangles inside the box are those of the trees inside the one it is read from.
  have hperm := Reader.rectangles_box
    (r := ⟨Grid.ofLines block.lines, block.offset, config.recognizers⟩) hnested hvalid
  rw [Reader.elements_box, ← heq, rectangles_singleton_box, BoxTree.boxes_eq,
    List.map_cons] at hperm
  rw [Reader.boxElement, Element.box.injEq] at heq
  rw [heq.1] at hperm ⊢
  obtain ⟨inner, hinner, rfl⟩ := List.mem_map.1 ((List.Perm.cons_inv hperm).mem_iff.1 hc)
  rw [Bounds.strictlyContains_shifted]
  exact hnested.strictlyContains inner hinner

/-- The scene of a block is well shaped. -/
theorem wellShaped_scene (config : Config) (block : Scene.Block) :
    (ofBlock config block).scene.WellShaped := by
  have hrows : ∀ children align,
      .row children align ∈ walkAll (ofBlock config block).scene.elements →
        RowShaped children := by
    intro children align hmem
    obtain ⟨l, hl, hheld⟩ := mem_walkAll_iff.1 hmem
    rcases Reader.levels_scene hl with rfl | ⟨u, hu, rfl⟩
    · rcases Reader.mem_openedAll_roots hheld with ⟨t, -, heq⟩ | ⟨run, _, heq, hrun, hseveral⟩
      · exact absurd heq (by simp [Reader.boxElement])
      · rw [Element.row.injEq] at heq
        rw [heq.1]
        refine .boxes hseveral (pairwise_beside hrun fun e he x hx => ?_)
        obtain ⟨t, ht, rfl⟩ := List.mem_map.1 he
        exact Reader.left_lt_right_of_boxElement
          (draws_of_mem_subtrees (BoxTree.mem_subtreesOfAll_of_mem ht)) hx
    · exact (Reader.holds_of_mem_opened hheld).rowShaped fun c hc =>
        draws_of_mem_subtrees (BoxTree.child_mem_subtreesOfAll hu hc)
  refine ⟨fun b name children hmem c hc => strictlyContains_of_mem_scene hmem hc,
    fun l hl => wellShaped_of_mem_levels hl, hrows,
    fun children align hmem => (hrows children align hmem).row_not_mem, ?_⟩
  intro b name children hmem hne
  obtain ⟨u, -, heq⟩ := Reader.exists_subtree_of_mem_scene hmem
  rw [Reader.boxElement, Element.box.injEq] at heq
  rw [heq.2.2] at hne ⊢
  exact Reader.exists_not_isSpacer_inside hne

end BlockAnalysis

/-! ## Documents -/

namespace Analysis

/-- If no identifier is given again, all are different from those seen before and from each
other. -/
theorem nodup_of_repeatedIds_eq_nil {seen : List (String × Position)} {scenes : List Scene}
    (h : repeatedIds seen scenes = []) :
    (∀ s ∈ scenes, seen.lookup s.id = none) ∧ (scenes.map (·.id)).Nodup := by
  induction scenes generalizing seen with
  | nil => simp
  | cons s scenes ih =>
    unfold repeatedIds at h
    dsimp only at h
    split at h
    · simp at h
    · next hnew =>
      obtain ⟨hrest, hnodup⟩ := ih h
      -- The identifier counts as seen for all scenes behind.
      have hother : ∀ t ∈ scenes, seen.lookup t.id = none ∧ t.id ≠ s.id := by
        intro t ht
        have hlookup := hrest t ht
        rw [List.lookup_append, Option.or_eq_none_iff] at hlookup
        refine ⟨hlookup.1, fun heq => ?_⟩
        rw [List.lookup_cons, heq, beq_self_eq_true] at hlookup
        exact absurd hlookup.2 (by simp)
      refine ⟨fun t ht => ?_, ?_⟩
      · rcases List.mem_cons.1 ht with rfl | ht
        · exact hnew
        · exact (hother t ht).1
      · rw [List.map_cons, List.nodup_cons]
        refine ⟨fun hmem => ?_, hnodup⟩
        obtain ⟨t, ht, heq⟩ := List.mem_map.1 hmem
        exact (hother t ht).2 heq

end Analysis

/-- When a text is read without errors under any settings, its scenes have different identifiers,
and every scene is well shaped. -/
theorem Config.document_wellShaped (config : Config) (text : String)
    (hsuccess : (config.parseText text).success = true) :
    ∃ document, (config.parseText text).document = some document ∧
      document.sceneIds.Nodup ∧ ∀ s ∈ document.scenes, s.WellShaped := by
  have hnone : (bySeverity (Analysis.ofText config text none).diagnostics).1 = [] :=
    List.isEmpty_iff.1 hsuccess
  refine ⟨(Analysis.ofText config text none).document, if_pos hnone, ?_, fun s hs => ?_⟩
  · -- An identifier that is given twice is an error.
    have hids : (Analysis.ofText config text none).idProblems = [] := by
      refine List.eq_nil_iff_forall_not_mem.2 fun d hd => ?_
      have herror : d.isError = true := by
        rw [Diagnostic.isError, Diagnostic.severity, Analysis.kind_of_mem_repeatedIds hd]
        rfl
      have hmem : d ∈ (Analysis.ofText config text none).diagnostics :=
        Analysis.mem_diagnostics_iff.2 (.inr (.inr (.inl hd)))
      have hfound : d ∈ (bySeverity (Analysis.ofText config text none).diagnostics).1 :=
        List.mem_filter.2 ⟨hmem, herror⟩
      rw [hnone] at hfound
      exact absurd hfound List.not_mem_nil
    exact (Analysis.nodup_of_repeatedIds_eq_nil hids).2
  · obtain ⟨a, ha, rfl⟩ := List.mem_map.1 hs
    obtain ⟨block, -, rfl⟩ := List.mem_map.1 ha
    exact BlockAnalysis.wellShaped_scene config block

/-- Two boxes side by side in a third one, one of them empty and one with a row of controls, and a
scene with an empty box. -/
def sideBySide : String :=
  "+----------------+\n|+-+ +------+    |\n|| | |[a]\"b\"|    |\n|+-+ +------+    |\n" ++
    "| text           |\n+----------------+\n---\n@scene: next\n+-+\n| |\n+-+"

/-- The boxes side by side make a row, and so do the controls in one of them. -/
theorem Config.document_wellShaped_side_by_side :
    (∃ document, (default.parseText sideBySide).document = some document ∧
      document.sceneIds.Nodup ∧ ∀ s ∈ document.scenes, s.WellShaped) ∧
      (default.parseText sideBySide).document.map
          (fun document => document.scenes.map fun s => (Element.walkAll s.elements).map fun e =>
            (e.typeName, e.boxBounds?)) =
        some
          [[("box", some ⟨0, 0, 5, 17⟩), ("row", none), ("box", some ⟨1, 1, 3, 3⟩),
              ("box", some ⟨1, 5, 3, 12⟩), ("row", none), ("button", none), ("link", none),
              ("text", none)],
            [("box", some ⟨8, 0, 10, 2⟩)]] := by
  have hsuccess : (default.parseText sideBySide).success = true := by decide +kernel
  exact ⟨document_wellShaped default _ hsuccess, by decide +kernel⟩

end Wireframe
