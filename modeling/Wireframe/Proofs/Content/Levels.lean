import Wireframe.Proofs.Content.Read

/-!
# Levels of a scene

The elements of a scene stand on levels: one level holds what is at the top of the scene, and every
box has a level of what stands directly inside it or in a row inside it. Each element of the scene
stands on some level (`mem_walkAll_iff`), so that a statement about all levels is one about all
elements with the innermost boxes around them.

The levels of a scene that was read are those of the trees of boxes it was read from
(`levels_scene`), and `Reader.Holds` lists what may stand on the level of a box.
-/

namespace Wireframe

namespace Element

/-! ## Induction over elements -/

mutual

/-- What holds of elements with nothing inside, and of boxes and rows whenever it holds of what is
inside them, holds of every element. -/
@[elab_as_elim]
theorem inductionOn {motive : Element → Prop} (leaf : ∀ e, e.isLeaf = true → motive e)
    (box : ∀ b name children, (∀ c ∈ children, motive c) → motive (.box b name children))
    (row : ∀ children align, (∀ c ∈ children, motive c) → motive (.row children align)) :
    ∀ e, motive e
  | .box b name children => box b name children (inductionOnAll leaf box row children)
  | .row children align => row children align (inductionOnAll leaf box row children)
  | .button b => leaf (.button b) rfl
  | .input i => leaf (.input i) rfl
  | .link l => leaf (.link l) rfl
  | .checkbox c => leaf (.checkbox c) rfl
  | .text t => leaf (.text t) rfl
  | .divider p => leaf (.divider p) rfl
  | .spacer p => leaf (.spacer p) rfl

/-- What holds of every element holds of all elements of a list. -/
theorem inductionOnAll {motive : Element → Prop} (leaf : ∀ e, e.isLeaf = true → motive e)
    (box : ∀ b name children, (∀ c ∈ children, motive c) → motive (.box b name children))
    (row : ∀ children align, (∀ c ∈ children, motive c) → motive (.row children align)) :
    ∀ es : List Element, ∀ e ∈ es, motive e
  | [], e, he => by simp at he
  | x :: rest, e, he => by
    rcases List.mem_cons.1 he with heq | he
    · rw [heq]
      exact inductionOn leaf box row x
    · exact inductionOnAll leaf box row rest e he

end

variable {e x : Element} {es : List Element} {container : Bounds}

/-- A walk through an element with nothing inside meets the element only. -/
theorem walk_of_isLeaf (h : e.isLeaf = true) : walk e = [e] := by
  cases e <;> simp_all [isLeaf, walk]

/-! ## Levels -/

mutual

/-- An element and, if it is a row, the elements that stand in it. -/
def opened : Element → List Element
  | .row children align => .row children align :: openedAll children
  | e => [e]

/-- Several elements and the elements that stand in rows among them. -/
def openedAll : List Element → List Element
  | [] => []
  | e :: rest => opened e ++ openedAll rest

end

/-- The elements that share one container. -/
structure Level where
  /-- The rectangle of the innermost box around them. There is none at the top of a scene. -/
  around : Option Bounds
  /-- The elements, those that stand in rows included. -/
  held : List Element

/-- The rectangles of the boxes on a level. -/
def Level.boxes (l : Level) : List Bounds := l.held.filterMap boxBounds?

/-- The level inside a box. -/
def level? : Element → Option Level
  | .box b _ children => some ⟨some b, openedAll children⟩
  | _ => none

/-- The levels of several elements: their own one, and one inside each box. -/
def levels (es : List Element) : List Level :=
  ⟨none, openedAll es⟩ :: (walkAll es).filterMap level?

/-- Several elements with their rows opened are each of them opened in turn. -/
theorem openedAll_eq_flatMap (es : List Element) : openedAll es = es.flatMap opened := by
  induction es with
  | nil => rfl
  | cons e es ih => rw [openedAll, ih, List.flatMap_cons]

/-- An element with nothing inside stands for itself. -/
theorem opened_of_isLeaf (h : e.isLeaf = true) : opened e = [e] := by
  cases e <;> simp_all [isLeaf, opened]

/-- An element is among those that it opens to. -/
theorem mem_opened_self (e : Element) : e ∈ opened e := by
  cases e <;> simp [opened]

/-- The level inside a box is that of an element which is the box. -/
theorem level?_eq_some_iff {l : Level} :
    level? e = some l ↔ ∃ b name children, e = .box b name children ∧
      l = ⟨some b, openedAll children⟩ := by
  cases e <;> simp [level?, eq_comm]

/-- What several elements open to comes in the order of a walk through them. -/
theorem openedAll_sublist_walkAll (es : List Element) : (openedAll es).Sublist (walkAll es) := by
  have hall : ∀ es : List Element, (∀ e ∈ es, (opened e).Sublist (walk e)) →
      (openedAll es).Sublist (walkAll es) := by
    intro es h
    induction es with
    | nil => exact .refl []
    | cons e es ih =>
      rw [openedAll, walkAll]
      exact (h e List.mem_cons_self).append (ih fun x hx => h x (List.mem_cons_of_mem e hx))
  have hone : ∀ e : Element, (opened e).Sublist (walk e) := by
    intro e
    induction e using inductionOn with
    | leaf e he => rw [opened_of_isLeaf he, walk_of_isLeaf he]
    | box b name children ih =>
      rw [opened, walk]
      · exact List.singleton_sublist.2 List.mem_cons_self
      · simp
    | row children align ih =>
      rw [opened, walk]
      exact (hall children ih).cons_cons _
  exact hall es fun e _ => hone e

/-- A walk through an element that is met on a walk is a part of that walk. -/
theorem walk_sublist_walkAll (h : x ∈ walkAll es) : (walk x).Sublist (walkAll es) := by
  have hall : ∀ es : List Element, (∀ e ∈ es, x ∈ walk e → (walk x).Sublist (walk e)) →
      x ∈ walkAll es → (walk x).Sublist (walkAll es) := by
    intro es hes hx
    induction es with
    | nil => simp [walkAll] at hx
    | cons e es ih =>
      rw [walkAll] at hx ⊢
      rcases List.mem_append.1 hx with hx | hx
      · exact (hes e List.mem_cons_self hx).trans (List.sublist_append_left _ _)
      · refine (ih (fun y hy => hes y (List.mem_cons_of_mem e hy)) hx).trans ?_
        exact List.sublist_append_right _ _
  have hone : ∀ e : Element, x ∈ walk e → (walk x).Sublist (walk e) := by
    intro e hx
    induction e using inductionOn with
    | leaf e he =>
      rw [walk_of_isLeaf he, List.mem_singleton] at hx
      rw [hx]
    | box b name children ih =>
      rw [walk] at hx
      rcases List.mem_cons.1 hx with rfl | hx
      · exact .refl _
      · rw [walk.eq_1]
        exact (hall children ih hx).cons _
    | row children align ih =>
      rw [walk] at hx
      rcases List.mem_cons.1 hx with rfl | hx
      · exact .refl _
      · rw [walk.eq_2]
        exact (hall children ih hx).cons _
  exact hall es (fun e _ => hone e) h

/-- The elements that are met on a walk are those that stand on some level. -/
theorem mem_walkAll_iff : e ∈ walkAll es ↔ ∃ l ∈ levels es, e ∈ l.held := by
  constructor
  · intro he
    have hall : ∀ es : List Element,
        (∀ x ∈ es, e ∈ walk x → e ∈ opened x ∨ ∃ l ∈ (walk x).filterMap level?, e ∈ l.held) →
          e ∈ walkAll es → e ∈ openedAll es ∨ ∃ l ∈ (walkAll es).filterMap level?, e ∈ l.held := by
      intro es hes he
      rw [walkAll_eq_flatMap] at he
      obtain ⟨x, hx, he⟩ := List.mem_flatMap.1 he
      rw [openedAll_eq_flatMap, walkAll_eq_flatMap, List.filterMap_flatMap]
      rcases hes x hx he with hopen | ⟨l, hl, hheld⟩
      · exact .inl (List.mem_flatMap.2 ⟨x, hx, hopen⟩)
      · exact .inr ⟨l, List.mem_flatMap.2 ⟨x, hx, hl⟩, hheld⟩
    have hone : ∀ x : Element, e ∈ walk x →
        e ∈ opened x ∨ ∃ l ∈ (walk x).filterMap level?, e ∈ l.held := by
      intro x hx
      induction x using inductionOn with
      | leaf x hleaf =>
        rw [walk_of_isLeaf hleaf, List.mem_singleton] at hx
        rw [hx]
        exact .inl (mem_opened_self x)
      | box b name children ih =>
        have hlevel : level? (.box b name children) = some ⟨some b, openedAll children⟩ := rfl
        rw [walk] at hx ⊢
        rw [List.filterMap_cons_some hlevel]
        rcases List.mem_cons.1 hx with rfl | hx
        · exact .inl (mem_opened_self _)
        · -- What is inside the box stands on its level or further inside.
          rcases hall children ih hx with hopen | ⟨l, hl, hheld⟩
          · exact .inr ⟨_, List.mem_cons_self, hopen⟩
          · exact .inr ⟨l, List.mem_cons_of_mem _ hl, hheld⟩
      | row children align ih =>
        rw [walk] at hx ⊢
        rw [opened, List.filterMap_cons_none rfl]
        rcases List.mem_cons.1 hx with rfl | hx
        · exact .inl List.mem_cons_self
        · rcases hall children ih hx with hopen | hinside
          · exact .inl (List.mem_cons_of_mem _ hopen)
          · exact .inr hinside
    rcases hall es (fun x _ => hone x) he with htop | ⟨l, hl, hheld⟩
    · exact ⟨⟨none, openedAll es⟩, List.mem_cons_self, htop⟩
    · exact ⟨l, List.mem_cons_of_mem _ hl, hheld⟩
  · rintro ⟨l, hl, hheld⟩
    rcases List.mem_cons.1 hl with rfl | hl
    · exact (openedAll_sublist_walkAll es).subset hheld
    · obtain ⟨x, hx, hlevel⟩ := List.mem_filterMap.1 hl
      obtain ⟨b, name, children, rfl, rfl⟩ := level?_eq_some_iff.1 hlevel
      have hinside : e ∈ walk (.box b name children) := by
        rw [walk]
        exact List.mem_cons_of_mem _ ((openedAll_sublist_walkAll children).subset hheld)
      exact (walk_sublist_walkAll hx).subset hinside

/-- The boxes on a level are among all boxes, each as often. -/
theorem boxes_sublist_rectangles {l : Level} (hl : l ∈ levels es) :
    l.boxes.Sublist (rectangles es) := by
  rcases List.mem_cons.1 hl with rfl | hl
  · exact (openedAll_sublist_walkAll es).filterMap _
  · obtain ⟨x, hx, hlevel⟩ := List.mem_filterMap.1 hl
    obtain ⟨b, name, children, rfl, rfl⟩ := level?_eq_some_iff.1 hlevel
    have hinside : (openedAll children).Sublist (walk (.box b name children)) := by
      rw [walk]
      exact (openedAll_sublist_walkAll children).cons _
    exact (hinside.trans (walk_sublist_walkAll hx)).filterMap _

/-! ## Rows of boxes -/

/-- Elements that are put together into rows open to themselves and the rows. -/
theorem mem_openedAll_gatherRows (h : e ∈ openedAll (gatherRows container es)) :
    e ∈ openedAll es ∨ ∃ run align, e = .row run align ∧ run ∈ es.splitBy continuesRow ∧
      2 ≤ run.length := by
  unfold gatherRows at h
  rw [openedAll_eq_flatMap, List.flatMap_assoc] at h
  obtain ⟨run, hrun, he⟩ := List.mem_flatMap.1 h
  have hes : ∀ x ∈ openedAll run, x ∈ openedAll es := by
    intro x hx
    rw [openedAll_eq_flatMap] at hx ⊢
    obtain ⟨y, hy, hx⟩ := List.mem_flatMap.1 hx
    have hmem : y ∈ es := by
      rw [← List.flatten_splitBy (r := continuesRow) (l := es)]
      exact List.mem_flatten.2 ⟨run, hrun, hy⟩
    exact List.mem_flatMap.2 ⟨y, hmem, hx⟩
  unfold ofRun at he
  split at he
  · next first second rest =>
    rw [List.flatMap_singleton, opened] at he
    rcases List.mem_cons.1 he with rfl | he
    · exact .inr ⟨_, _, rfl, hrun, by simp⟩
    · exact .inl (hes e he)
  · rw [← openedAll_eq_flatMap] at he
    exact .inl (hes e he)

/-- Elements that are not all blank lines are not so either when they are put together into rows. -/
theorem exists_not_isSpacer_gatherRows (container : Bounds) (h : x ∈ es)
    (hfilled : x.isSpacer = false) : ∃ e ∈ gatherRows container es, e.isSpacer = false := by
  rw [← List.flatten_splitBy (r := continuesRow) (l := es)] at h
  obtain ⟨run, hrun, hx⟩ := List.mem_flatten.1 h
  obtain ⟨e, he, hnot⟩ : ∃ e ∈ ofRun container run, e.isSpacer = false := by
    unfold ofRun
    split
    · exact ⟨_, List.mem_singleton_self _, rfl⟩
    · exact ⟨x, hx, hfilled⟩
  exact ⟨e, List.mem_flatMap.2 ⟨run, hrun, he⟩, hnot⟩

/-- Putting elements together into rows makes no boxes. -/
theorem mem_walkAll_of_gatherRows {b : Bounds} {name : Option String} {children : List Element}
    (h : .box b name children ∈ walkAll (gatherRows container es)) :
    .box b name children ∈ walkAll es := by
  unfold gatherRows at h
  rw [walkAll_eq_flatMap, List.flatMap_assoc] at h
  obtain ⟨run, hrun, he⟩ := List.mem_flatMap.1 h
  have hinside : .box b name children ∈ walkAll run := by
    unfold ofRun at he
    split at he
    · rw [List.flatMap_singleton, walk] at he
      exact (List.mem_cons.1 he).resolve_left (by simp)
    · rw [walkAll_eq_flatMap]
      exact he
  rw [← List.flatten_splitBy (r := continuesRow) (l := es), walkAll_eq_flatMap]
  rw [walkAll_eq_flatMap] at hinside
  obtain ⟨x, hx, hwalk⟩ := List.mem_flatMap.1 hinside
  exact List.mem_flatMap.2 ⟨x, List.mem_flatten.2 ⟨run, hrun, hx⟩, hwalk⟩

end Element

/-! ## Trees of boxes as elements -/

namespace Reader

open Element

variable {r : Reader} {t u : BoxTree} {e : Element}

/-- What stands directly inside a box, before boxes side by side are put together into rows. -/
def contents (r : Reader) (t : BoxTree) : List Element :=
  let all := (Grid.innerRows t.box.bounds).flatMap fun row =>
    (r.interiorRow t.box.bounds (r.boxes t.children) row).elements
  if all.all isSpacer then [] else all

/-- What a box has inside. -/
def inside (r : Reader) (t : BoxTree) : List Element := gatherRows t.box.bounds (r.contents t)

/-- What a tree of boxes is read as. -/
def boxElement (r : Reader) (t : BoxTree) : Element :=
  .box (t.box.bounds.shifted r.offset) t.box.name (r.inside t)

/-- A tree is read as one box. -/
theorem elements_box (r : Reader) (t : BoxTree) : (r.box t).elements = [r.boxElement t] := by
  obtain ⟨box, children⟩ := t
  show (r.assemble box (r.boxes children)).elements = _
  unfold assemble boxElement inside contents
  dsimp only
  rw [Reading.elements_concat, List.flatMap_map]

/-- A scene is read as the boxes of its trees. -/
theorem elements_scene (r : Reader) (block : Scene.Block) (roots : List BoxTree) :
    (r.scene block roots).1.elements = gatherRows (canvas r.grid) (roots.map r.boxElement) := by
  unfold scene
  dsimp only
  rw [Reading.elements_concat, List.flatMap_map, List.map_eq_flatMap]
  exact congrArg _ (List.flatMap_congr fun t _ => elements_box r t)

/-- The row lies inside a box, and no box directly inside covers it. -/
structure FreeRow (t : BoxTree) (row : Int) : Prop where
  /-- It lies between the edges. -/
  mem : row ∈ Grid.innerRows t.box.bounds
  /-- It lies above or below every box directly inside. -/
  free : ∀ c ∈ t.children, ¬ (c.box.bounds.top ≤ row ∧ row ≤ c.box.bounds.bottom)

/-- Directly inside a box stand the boxes of the trees inside, and what rows give of their own that
no box covers. -/
theorem mem_contents (h : e ∈ r.contents t) :
    (∃ c ∈ t.children, e = r.boxElement c) ∨
      ∃ row, FreeRow t row ∧ e ∈ r.ownRow row t.box.bounds := by
  have hall : e ∈ (Grid.innerRows t.box.bounds).flatMap fun row =>
      (r.interiorRow t.box.bounds (r.boxes t.children) row).elements := by
    unfold contents at h
    dsimp only at h
    split at h
    · simp at h
    · exact h
  obtain ⟨row, hrow, he⟩ := List.mem_flatMap.1 hall
  rw [elements_interiorRow, boxes_eq_map] at he
  rcases List.mem_append.1 he with hbegun | hown
  · obtain ⟨i, hi, he⟩ := List.mem_flatMap.1 hbegun
    obtain ⟨c, hc, rfl⟩ := List.mem_map.1 (List.mem_filter.1 (mem_sortBy.1 hi)).1
    rw [elements_box, List.mem_singleton] at he
    exact .inl ⟨c, hc, he⟩
  · split at hown
    · simp at hown
    · next hfree =>
      refine .inr ⟨row, ⟨hrow, fun c hc hcovers => hfree ?_⟩, hown⟩
      refine List.any_eq_true.2 ⟨⟨c.box.bounds, r.box c⟩, List.mem_map_of_mem hc, ?_⟩
      simpa using hcovers

/-- The element may stand on the level inside a box. -/
inductive Holds (r : Reader) (t : BoxTree) : Element → Prop where
  /-- It is a box directly inside. -/
  | box (c : BoxTree) (hc : c ∈ t.children) : Holds r t (r.boxElement c)
  /-- It stands on a free row. -/
  | own (e : Element) (row : Int) (hrow : FreeRow t row) (hread : r.ReadOn row t.box.bounds e) :
    Holds r t e
  /-- It is a row of controls on a free row. -/
  | controls (parts : List Element) (align : Alignment) (row : Int) (hrow : FreeRow t row)
    (hparts : r.ControlsOn row t.box.bounds parts) : Holds r t (.row parts align)
  /-- It is a row of boxes side by side. -/
  | boxes (run : List Element) (align : Alignment)
    (hrun : run ∈ (r.contents t).splitBy continuesRow) (hseveral : 2 ≤ run.length) :
    Holds r t (.row run align)

/-- What stands on the level inside a box. -/
theorem holds_of_mem_opened (h : e ∈ openedAll (r.inside t)) : r.Holds t e := by
  rcases mem_openedAll_gatherRows h with h | ⟨run, align, rfl, hrun, hseveral⟩
  · rw [openedAll_eq_flatMap] at h
    obtain ⟨x, hx, he⟩ := List.mem_flatMap.1 h
    rcases mem_contents hx with ⟨c, hc, rfl⟩ | ⟨row, hrow, hown⟩
    · unfold boxElement at he
      rw [opened, List.mem_singleton] at he
      · rw [he]
        exact .box c hc
      · simp
    · rcases mem_ownRow hown with hread | ⟨parts, align, rfl, hparts⟩
      · rw [opened_of_isLeaf hread.isLeaf, List.mem_singleton] at he
        rw [he]
        exact .own x row hrow hread
      · rw [opened, openedAll_eq_flatMap] at he
        rcases List.mem_cons.1 he with rfl | he
        · exact .controls parts align row hrow hparts
        · obtain ⟨part, hpart, he⟩ := List.mem_flatMap.1 he
          have hread := hparts.readOn part hpart
          rw [opened_of_isLeaf hread.isLeaf, List.mem_singleton] at he
          rw [he]
          exact .own part row hrow hread
  · exact .boxes run align hrun hseveral

/-- The boxes that a tree is read as are those of its subtrees. -/
theorem exists_subtree_of_mem_walk {b : Bounds} {name : Option String} {children : List Element}
    (h : .box b name children ∈ walk (r.boxElement t)) :
    ∃ u ∈ t.subtrees, .box b name children = r.boxElement u := by
  induction t with
  | mk box trees ih =>
    rw [BoxTree.subtrees_eq]
    rw [boxElement, walk] at h
    rcases List.mem_cons.1 h with heq | h
    · exact ⟨_, List.mem_cons_self, heq⟩
    · have hcontents := mem_walkAll_of_gatherRows h
      rw [walkAll_eq_flatMap] at hcontents
      obtain ⟨x, hx, hwalk⟩ := List.mem_flatMap.1 hcontents
      rcases mem_contents hx with ⟨c, hc, rfl⟩ | ⟨row, -, hown⟩
      · obtain ⟨u, hu, heq⟩ := ih c hc hwalk
        exact ⟨u, List.mem_cons_of_mem _ (List.mem_flatMap.2 ⟨c, hc, hu⟩), heq⟩
      · -- No box stands on a row of its own.
        have hnone : ∀ y ∈ walk x, y = x ∨ y.isLeaf = true := by
          rcases mem_ownRow hown with hread | ⟨parts, align, rfl, hparts⟩
          · intro y hy
            rw [walk_of_isLeaf hread.isLeaf] at hy
            exact .inl (List.mem_singleton.1 hy)
          · intro y hy
            rw [walk, walkAll_eq_flatMap] at hy
            rcases List.mem_cons.1 hy with rfl | hy
            · exact .inl rfl
            · obtain ⟨part, hpart, hy⟩ := List.mem_flatMap.1 hy
              have hleaf := (hparts.readOn part hpart).isLeaf
              rw [walk_of_isLeaf hleaf, List.mem_singleton] at hy
              rw [hy]
              exact .inr hleaf
        rcases hnone _ hwalk with heq | hleaf
        · rcases mem_ownRow hown with hread | ⟨parts, align, hrow, -⟩
          · have hleaf := hread.isLeaf
            rw [← heq] at hleaf
            simp [isLeaf] at hleaf
          · rw [← heq] at hrow
            simp at hrow
        · simp [isLeaf] at hleaf

/-- The boxes of a scene are those of the subtrees of its trees. -/
theorem exists_subtree_of_mem_scene {block : Scene.Block} {roots : List BoxTree} {b : Bounds}
    {name : Option String} {children : List Element}
    (h : .box b name children ∈ walkAll (r.scene block roots).1.elements) :
    ∃ u ∈ BoxTree.subtreesOfAll roots, .box b name children = r.boxElement u := by
  rw [elements_scene] at h
  have hroots := mem_walkAll_of_gatherRows h
  rw [walkAll_eq_flatMap, List.flatMap_map] at hroots
  obtain ⟨t, ht, hwalk⟩ := List.mem_flatMap.1 hroots
  obtain ⟨u, hu, heq⟩ := exists_subtree_of_mem_walk hwalk
  rw [BoxTree.subtreesOfAll_eq_flatMap]
  exact ⟨u, List.mem_flatMap.2 ⟨t, ht, hu⟩, heq⟩

/-- The levels of a scene are the one of the boxes at the roots of its trees, and those inside the
boxes of the trees. -/
theorem levels_scene {block : Scene.Block} {roots : List BoxTree} {l : Level}
    (h : l ∈ levels (r.scene block roots).1.elements) :
    l = ⟨none, openedAll (gatherRows (canvas r.grid) (roots.map r.boxElement))⟩ ∨
      ∃ u ∈ BoxTree.subtreesOfAll roots,
        l = ⟨some (u.box.bounds.shifted r.offset), openedAll (r.inside u)⟩ := by
  rcases List.mem_cons.1 h with rfl | h
  · rw [elements_scene]
    exact .inl rfl
  · obtain ⟨x, hx, hlevel⟩ := List.mem_filterMap.1 h
    obtain ⟨b, name, children, rfl, rfl⟩ := level?_eq_some_iff.1 hlevel
    obtain ⟨u, hu, heq⟩ := exists_subtree_of_mem_scene hx
    rw [boxElement, Element.box.injEq] at heq
    rw [heq.1, heq.2.2]
    exact .inr ⟨u, hu, rfl⟩

/-- At the top of a scene stand the boxes at the roots of its trees, and rows of them. -/
theorem mem_openedAll_roots {roots : List BoxTree} {container : Bounds}
    (h : e ∈ openedAll (gatherRows container (roots.map r.boxElement))) :
    (∃ t ∈ roots, e = r.boxElement t) ∨
      ∃ run align, e = .row run align ∧
        run ∈ (roots.map r.boxElement).splitBy continuesRow ∧ 2 ≤ run.length := by
  rcases mem_openedAll_gatherRows h with h | hrow
  · rw [openedAll_eq_flatMap, List.flatMap_map] at h
    obtain ⟨t, ht, he⟩ := List.mem_flatMap.1 h
    unfold boxElement at he
    rw [opened, List.mem_singleton] at he
    · exact .inl ⟨t, ht, he⟩
    · simp
  · exact .inr hrow

end Reader

end Wireframe
