import Mathlib.Data.List.Nodup
import Wireframe.Proofs.Nesting.Depth

/-!
# Boxes in another order

The trees and the depths of the warnings do not depend on the order in which boxes are listed
(`ofBoxes_of_perm`), although places in the list decide between boxes of the same size. Boxes that
are laminar and have some space inside have different corners (`PairwiseLaminar.nodup_topLeft`), so
that the reading order leaves no choice. Such boxes have only one forest (`IsForest.unique`): which
boxes are at its roots and which are directly inside a box is known from strict containment alone
(`IsForest.mem_roots_iff`, `IsForest.mem_children_iff`), and the rest is an induction up a tree.
-/

namespace Wireframe

/-! ## The box next around a box -/

namespace BoxTree

variable {t u c : BoxTree} {ts us : List BoxTree} {around : List Box}

/-- What is directly inside a box of a tree has this box next around it. -/
theorem exists_mem_withAncestors_of_child (hu : u ∈ t.subtrees) (hc : c ∈ u.children)
    (around : List Box) : ∃ outer, (c.box, u.box :: outer) ∈ t.withAncestors around := by
  induction t generalizing around with
  | mk box children ih =>
    rw [withAncestors, withAncestorsOfAll_eq_flatMap]
    rw [subtrees_eq] at hu
    rcases List.mem_cons.1 hu with rfl | hu
    · refine ⟨around, List.mem_cons_of_mem _ (List.mem_flatMap.2 ⟨c, hc, ?_⟩)⟩
      obtain ⟨cbox, inner⟩ := c
      rw [withAncestors]
      exact List.mem_cons_self
    · obtain ⟨d, hd, hu⟩ := List.mem_flatMap.1 hu
      obtain ⟨outer, hmem⟩ := ih d hd hu (box :: around)
      exact ⟨outer, List.mem_cons_of_mem _ (List.mem_flatMap.2 ⟨d, hd, hmem⟩)⟩

/-- The box next around a box of a tree is the one that it is directly inside, unless the box is at
the root. -/
theorem root_or_exists_child {b : Box} {outer : List Box}
    (h : (b, outer) ∈ t.withAncestors around) :
    (b = t.box ∧ outer = around) ∨ ∃ u ∈ t.subtrees, ∃ c ∈ u.children, c.box = b ∧
      outer.head? = some u.box := by
  induction t generalizing around with
  | mk box children ih =>
    rw [withAncestors, withAncestorsOfAll_eq_flatMap] at h
    rcases List.mem_cons.1 h with heq | h
    · obtain ⟨rfl, rfl⟩ := Prod.mk.inj heq
      exact .inl ⟨rfl, rfl⟩
    · obtain ⟨c, hc, h⟩ := List.mem_flatMap.1 h
      rw [subtrees_eq]
      rcases ih c hc h with ⟨rfl, rfl⟩ | ⟨u, hu, d, hd, hbox, hhead⟩
      · exact .inr ⟨_, List.mem_cons_self, c, hc, rfl, rfl⟩
      · exact .inr ⟨u, List.mem_cons_of_mem _ (List.mem_flatMap.2 ⟨c, hc, hu⟩), d, hd, hbox, hhead⟩

end BoxTree

namespace Nesting

variable {boxes : List Box} {ts us : List BoxTree} {t u : BoxTree} {b : Box}

/-! ## Roots and children -/

/-- The roots of a forest have different boxes. -/
theorem IsForest.nodup_roots (h : IsForest boxes ts) (hnodup : boxes.Nodup) :
    (ts.map (·.box)).Nodup := by
  refine (List.Sublist.map _ ?_).nodup (h.nodup hnodup)
  rw [BoxTree.subtreesOfAll_eq_flatMap]
  have hself := List.Sublist.flatMap_right ts fun t _ =>
    List.singleton_sublist.2 (BoxTree.mem_subtrees_self t)
  rwa [List.flatMap_singleton'] at hself

/-- The boxes of a forest are those that have boxes around them in it, maybe none. -/
theorem IsForest.mem_iff (h : IsForest boxes ts) :
    b ∈ boxes ↔ ∃ outer, (b, outer) ∈ BoxTree.withAncestorsOfAll [] ts := by
  rw [← h.perm.mem_iff, ← BoxTree.map_fst_withAncestorsOfAll [] ts, List.mem_map]
  simp

/-- The boxes at the roots of a forest are those that no box contains. -/
theorem IsForest.mem_roots_iff (h : IsForest boxes ts) :
    b ∈ ts.map (·.box) ↔ b ∈ boxes ∧ containers boxes b.bounds = [] := by
  rw [h.mem_iff]
  constructor
  · intro hb
    obtain ⟨⟨box, children⟩, ht, rfl⟩ := List.mem_map.1 hb
    have hmem : (box, []) ∈ BoxTree.withAncestorsOfAll [] ts := by
      rw [BoxTree.withAncestorsOfAll_eq_flatMap]
      refine List.mem_flatMap.2 ⟨_, ht, ?_⟩
      rw [BoxTree.withAncestors]
      exact List.mem_cons_self
    exact ⟨⟨[], hmem⟩, (h.ancestors _ hmem).nil_eq.symm⟩
  · rintro ⟨⟨outer, hp⟩, hnone⟩
    have houter : outer = [] := by
      have := h.ancestors _ hp
      rw [hnone] at this
      exact this.eq_nil
    rw [BoxTree.withAncestorsOfAll_eq_flatMap] at hp
    obtain ⟨t, ht, hp⟩ := List.mem_flatMap.1 hp
    rcases BoxTree.root_or_exists_child hp with ⟨rfl, -⟩ | ⟨u, -, c, -, -, hhead⟩
    · exact List.mem_map_of_mem ht
    · rw [houter] at hhead
      simp at hhead

/-- What is next around a box in a forest is its parent. -/
theorem IsForest.isParent (h : IsForest boxes ts) {parent : Box} {outer : List Box}
    (hp : (b, parent :: outer) ∈ BoxTree.withAncestorsOfAll [] ts) :
    IsParent boxes parent b.bounds := by
  have hperm := h.ancestors _ hp
  refine ⟨hperm.mem_iff.1 List.mem_cons_self, fun a ha => ?_⟩
  rcases List.mem_cons.1 (hperm.mem_iff.2 ha) with rfl | ha
  · exact le_refl _
  · exact le_of_lt ((List.pairwise_cons.1 (h.growing _ hp)).1 a ha)

/-- A box in a forest has its parent next around it. -/
theorem IsForest.eq_of_isParent (h : IsForest boxes ts) {parent next : Box} {outer : List Box}
    (hp : (b, next :: outer) ∈ BoxTree.withAncestorsOfAll [] ts)
    (hparent : IsParent boxes parent b.bounds) : parent = next := by
  have hperm := h.ancestors _ hp
  refine (List.mem_cons.1 (hperm.mem_iff.2 hparent.mem)).resolve_right fun houter => ?_
  -- Further outside it would be larger than the one next around.
  have hlt := (List.pairwise_cons.1 (h.growing _ hp)).1 parent houter
  exact absurd (hparent.least next (hperm.mem_iff.1 List.mem_cons_self)) (not_le.2 hlt)

/-- The boxes directly inside a box of a forest are those whose parent it is. -/
theorem IsForest.mem_children_iff (h : IsForest boxes ts) (hnodup : boxes.Nodup)
    (ht : t ∈ BoxTree.subtreesOfAll ts) :
    b ∈ t.children.map (·.box) ↔ b ∈ boxes ∧ IsParent boxes t.box b.bounds := by
  constructor
  · intro hb
    obtain ⟨c, hc, rfl⟩ := List.mem_map.1 hb
    obtain ⟨outer, hp⟩ : ∃ outer, (c.box, t.box :: outer) ∈ BoxTree.withAncestorsOfAll [] ts := by
      rw [BoxTree.subtreesOfAll_eq_flatMap] at ht
      obtain ⟨root, hroot, ht⟩ := List.mem_flatMap.1 ht
      obtain ⟨outer, hp⟩ := BoxTree.exists_mem_withAncestors_of_child ht hc []
      rw [BoxTree.withAncestorsOfAll_eq_flatMap]
      exact ⟨outer, List.mem_flatMap.2 ⟨root, hroot, hp⟩⟩
    exact ⟨h.mem_iff.2 ⟨_, hp⟩, h.isParent hp⟩
  · rintro ⟨hb, hparent⟩
    obtain ⟨outer, hp⟩ := h.mem_iff.1 hb
    have hmem := (h.ancestors _ hp).mem_iff.2 hparent.mem
    obtain ⟨root, hroot, hp'⟩ : ∃ root ∈ ts, (b, outer) ∈ root.withAncestors [] := by
      rwa [BoxTree.withAncestorsOfAll_eq_flatMap, List.mem_flatMap] at hp
    rcases BoxTree.root_or_exists_child hp' with ⟨-, rfl⟩ | ⟨u, hu, c, hc, rfl, hhead⟩
    · simp at hmem
    · obtain ⟨rest, rfl⟩ := List.head?_eq_some_iff.1 hhead
      have hu : u ∈ BoxTree.subtreesOfAll ts := by
        rw [BoxTree.subtreesOfAll_eq_flatMap]
        exact List.mem_flatMap.2 ⟨root, hroot, hu⟩
      rw [List.inj_on_of_nodup_map (h.nodup hnodup) ht hu (h.eq_of_isParent hp hparent)]
      exact List.mem_map_of_mem hc

/-! ## One forest -/

/-- Trees in reading order are the same when they have the same boxes and boxes at different
corners, and each is the one of its box. -/
theorem eq_of_mem_box_iff (hcorners : (boxes.map (·.bounds.topLeft)).Nodup)
    (hboxes : ∀ t ∈ ts, t.box ∈ boxes) (hts : (ts.map (·.box)).Nodup)
    (hus : (us.map (·.box)).Nodup) (hsorted : ts.Pairwise fun a c => a.before c = true)
    (hsorted' : us.Pairwise fun a c => a.before c = true)
    (hsame : ∀ b, b ∈ ts.map (·.box) ↔ b ∈ us.map (·.box))
    (heq : ∀ t ∈ ts, ∀ u ∈ us, t.box = u.box → t = u) : ts = us := by
  have hmem : ∀ t, t ∈ ts ↔ t ∈ us := by
    intro t
    constructor
    · intro ht
      obtain ⟨u, hu, hbox⟩ := List.mem_map.1 ((hsame t.box).1 (List.mem_map_of_mem ht))
      rw [heq t ht u hu hbox.symm]
      exact hu
    · intro hu
      obtain ⟨t', ht', hbox⟩ := List.mem_map.1 ((hsame t.box).2 (List.mem_map_of_mem hu))
      rw [← heq t' ht' t hu hbox]
      exact ht'
  have hperm := (List.perm_ext_iff_of_nodup (hts.of_map _) (hus.of_map _)).2 hmem
  refine hperm.eq_of_pairwise (fun t u ht hu htu hut => ?_) hsorted hsorted'
  -- Two trees that may each come first have the same corner, so the same box.
  have hcorner := Position.eq_of_before htu hut
  exact heq t ht u hu (List.inj_on_of_nodup_map hcorners (hboxes t ht)
    (hboxes u ((hmem u).2 hu)) hcorner)

/-- The trees of two forests of the same boxes are the same where their boxes are. -/
theorem IsForest.eq_of_box_eq (hcorners : (boxes.map (·.bounds.topLeft)).Nodup)
    (hts : IsForest boxes ts) (hus : IsForest boxes us) (ht : t ∈ BoxTree.subtreesOfAll ts)
    (hu : u ∈ BoxTree.subtreesOfAll us) (h : t.box = u.box) : t = u := by
  induction t generalizing u with
  | mk box children ih =>
    obtain ⟨box', children'⟩ := u
    obtain rfl : box = box' := h
    have hnodup : boxes.Nodup := hcorners.of_map _
    have hchildren : children = children' := by
      refine eq_of_mem_box_iff hcorners (fun c hc => ?_) (hts.nodup_children hnodup ht)
        (hus.nodup_children hnodup hu) (hts.children _ ht) (hus.children _ hu) (fun b => ?_)
        fun c hc d hd hbox => ?_
      · exact ((hts.mem_children_iff hnodup ht).1 (List.mem_map_of_mem hc)).1
      · exact (hts.mem_children_iff hnodup ht).trans (hus.mem_children_iff hnodup hu).symm
      · exact ih c hc (BoxTree.child_mem_subtreesOfAll ht hc)
          (BoxTree.child_mem_subtreesOfAll hu hd) hbox
    rw [hchildren]

/-- Boxes at different corners have one forest. -/
theorem IsForest.unique (hcorners : (boxes.map (·.bounds.topLeft)).Nodup)
    (hts : IsForest boxes ts) (hus : IsForest boxes us) : ts = us := by
  have hnodup : boxes.Nodup := hcorners.of_map _
  refine eq_of_mem_box_iff hcorners (fun t ht => ?_) (hts.nodup_roots hnodup)
    (hus.nodup_roots hnodup) hts.roots hus.roots (fun b => ?_) fun t ht u hu hbox => ?_
  · exact (hts.mem_roots_iff.1 (List.mem_map_of_mem ht)).1
  · exact hts.mem_roots_iff.trans hus.mem_roots_iff.symm
  · exact hts.eq_of_box_eq hcorners hus (BoxTree.mem_subtreesOfAll_of_mem ht)
      (BoxTree.mem_subtreesOfAll_of_mem hu) hbox

/-! ## Another order -/

/-- A forest of boxes is one of the same boxes in another order. -/
theorem IsForest.of_perm {boxes' : List Box} (h : IsForest boxes ts)
    (hperm : boxes.Perm boxes') : IsForest boxes' ts where
  perm := h.perm.trans hperm
  ancestors := fun p hp => (h.ancestors p hp).trans (hperm.filter _)
  growing := h.growing
  roots := h.roots
  children := h.children

/-- Laminar boxes with some space inside them have different corners. -/
theorem PairwiseLaminar.nodup_topLeft (h : PairwiseLaminar boxes)
    (hspace : ∀ b ∈ boxes, 0 < b.bounds.width ∧ 0 < b.bounds.height) :
    (boxes.map (·.bounds.topLeft)).Nodup := by
  refine List.pairwise_map.2 (h.imp_of_mem fun {a b} ha hb hlaminar hcorner => ?_)
  obtain ⟨hwidth, hheight⟩ := hspace a ha
  obtain ⟨hwidth', hheight'⟩ := hspace b hb
  simp only [Bounds.topLeft, Position.mk.injEq] at hcorner
  simp only [Bounds.width, Bounds.height] at *
  rcases hlaminar with hab | hba | hapart
  · rw [Bounds.strictlyContains_iff] at hab
    omega
  · rw [Bounds.strictlyContains_iff] at hba
    omega
  · -- Both have the place right below and to the right of the corner inside.
    have hover : a.bounds.overlaps b.bounds = true := by
      rw [Bounds.overlaps_iff]
      omega
    rw [hapart] at hover
    exact Bool.false_ne_true hover

/-- Whether boxes are laminar does not depend on their order. -/
theorem PairwiseLaminar.of_perm {boxes' : List Box} (h : PairwiseLaminar boxes)
    (hperm : boxes.Perm boxes') : PairwiseLaminar boxes' :=
  h.perm hperm Bounds.Laminar.symm

/-- The depths in the warnings are those of the trees that are too deep. -/
theorem forall₂_depth_depthWarnings (maxDepth : Nat) (hlaminar : PairwiseLaminar boxes)
    (hvalid : ∀ box ∈ boxes, box.bounds.Valid) :
    List.Forall₂ (fun (depth : Nat) d => ∃ p, d = .deepNesting p depth maxDepth)
      (((trees (ofBoxes boxes)).filter fun t => decide (maxDepth < t.depth)).map (·.depth))
      (depthWarnings maxDepth (ofBoxes boxes)) := by
  refine List.forall₂_map_left_iff.2 ((forall₂_depthWarnings maxDepth hlaminar hvalid).imp ?_)
  rintro t d ⟨b, -, rfl⟩
  exact ⟨_, rfl⟩

end Nesting

namespace Hierarchy

/-- For boxes with some space inside, if no conflict is found, nothing but the places of the
warnings depends on the order in which the boxes are listed: in another order there are the same
trees and no errors, and the warnings give the same depths in the same order. -/
theorem ofBoxes_of_perm (maxDepth : Nat) (boxes boxes' : List Box)
    (hspace : ∀ box ∈ boxes, 0 < box.bounds.width ∧ 0 < box.bounds.height)
    (hnone : (ofBoxes maxDepth boxes).errors = []) (hperm : boxes.Perm boxes') :
    (ofBoxes maxDepth boxes').trees = (ofBoxes maxDepth boxes).trees ∧
      (ofBoxes maxDepth boxes').errors = [] ∧
      ∃ depths : List Nat,
        List.Forall₂ (fun depth d => ∃ p, d = .deepNesting p depth maxDepth) depths
            (ofBoxes maxDepth boxes).warnings ∧
          List.Forall₂ (fun depth d => ∃ p, d = .deepNesting p depth maxDepth) depths
            (ofBoxes maxDepth boxes').warnings := by
  have hvalid : ∀ box ∈ boxes, box.bounds.Valid := fun box hbox => by
    have := hspace box hbox
    simp only [Bounds.width, Bounds.height] at this
    exact ⟨by omega, by omega⟩
  have hvalid' : ∀ box ∈ boxes', box.bounds.Valid := fun box hbox =>
    hvalid box (hperm.mem_iff.2 hbox)
  have hlaminar : Nesting.PairwiseLaminar boxes := errors_ofBoxes_eq_nil_iff.1 hnone
  have hlaminar' := hlaminar.of_perm hperm
  have hnone' : (ofBoxes maxDepth boxes').errors = [] := errors_ofBoxes_eq_nil_iff.2 hlaminar'
  have htrees : Nesting.trees (Nesting.ofBoxes boxes') = Nesting.trees (Nesting.ofBoxes boxes) :=
    ((Nesting.isForest_trees hlaminar' hvalid').of_perm hperm.symm).unique
      (hlaminar.nodup_topLeft hspace) (Nesting.isForest_trees hlaminar hvalid)
  have hdepths := Nesting.forall₂_depth_depthWarnings maxDepth hlaminar hvalid
  have hdepths' := Nesting.forall₂_depth_depthWarnings maxDepth hlaminar' hvalid'
  rw [htrees] at hdepths'
  refine ⟨?_, hnone', _, hdepths, hdepths'⟩
  rw [trees_ofBoxes hnone, trees_ofBoxes hnone', htrees]

/-- Two boxes of the same size next to each other, and two more inside the second one. -/
def twoDeepest : List Box :=
  [⟨⟨0, 0, 9, 9⟩, none⟩, ⟨⟨0, 10, 9, 19⟩, some "a"⟩, ⟨⟨1, 15, 2, 17⟩, some "b"⟩,
    ⟨⟨1, 11, 2, 13⟩, none⟩]

/-- They have the same trees from the innermost one outwards as the other way round, though another
box is warned of. -/
theorem ofBoxes_of_perm_two_deepest :
    ((ofBoxes 0 twoDeepest.reverse).trees = (ofBoxes 0 twoDeepest).trees ∧
      (ofBoxes 0 twoDeepest.reverse).errors = [] ∧
      ∃ depths : List Nat,
        List.Forall₂ (fun (depth : Nat) d => ∃ p, d = Diagnostic.deepNesting p depth 0) depths
            (ofBoxes 0 twoDeepest).warnings ∧
          List.Forall₂ (fun (depth : Nat) d => ∃ p, d = Diagnostic.deepNesting p depth 0) depths
            (ofBoxes 0 twoDeepest.reverse).warnings) ∧
      (ofBoxes 0 twoDeepest).warnings = [.deepNesting ⟨1, 15⟩ 1 0] ∧
      (ofBoxes 0 twoDeepest.reverse).warnings = [.deepNesting ⟨1, 11⟩ 1 0] :=
  ⟨ofBoxes_of_perm 0 twoDeepest _ (by decide +kernel) (by decide +kernel)
      (List.reverse_perm _).symm,
    by decide +kernel, by decide +kernel⟩

end Hierarchy

end Wireframe
