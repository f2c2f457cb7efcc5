import Mathlib.Data.List.Forall2
import Mathlib.Order.Bounds.Defs
import Wireframe.Proofs.Nesting.Ancestry
import Wireframe.Proofs.Nesting.Levels

/-!
# Warnings of deep nesting

The depth of a box is known in three ways: as the number of steps from a root (`Leveled`), as the
number of boxes around it in a tree, and as the number of boxes of the list that strictly contain
it. They agree (`Leveled.depth_eq`, `IsForest.length_eq`), so that the depth of a tree is the
largest such number (`IsForest.isGreatest_depth`) and the deepest box below a root is one that is
furthest from the root of its tree (`exists_deepest`). So the warnings are read off the trees
(`warnings_ofBoxes`).

Equal boxes may be listed more than once when they are as flat as a line. Trees do not tell them
apart, but they have the same parent, so that they are below the same root unless they are roots
themselves (`Leveled.exists_of_mem_boxes`).
-/

namespace Wireframe

/-! ## The depth of a tree -/

namespace BoxTree

variable {t c : BoxTree} {ts : List BoxTree} {around : List Box}

/-- Each of several trees has fewer levels than they make up. -/
theorem depth_lt_levels (ht : t ∈ ts) : t.depth < levels ts := by
  induction ts with
  | nil => simp at ht
  | cons u ts ih =>
    rw [levels]
    rcases List.mem_cons.1 ht with rfl | ht
    · omega
    · have := ih ht
      omega

/-- One of several trees makes up all of their levels. -/
theorem exists_depth_eq (hts : ts ≠ []) : ∃ t ∈ ts, levels ts = t.depth + 1 := by
  induction ts with
  | nil => exact absurd rfl hts
  | cons u ts ih =>
    rw [levels]
    rcases Nat.le_total (levels ts) (u.depth + 1) with hle | hle
    · exact ⟨u, List.mem_cons_self, by omega⟩
    · have hne : ts ≠ [] := by
        rintro rfl
        simp [levels] at hle
      obtain ⟨t, ht, heq⟩ := ih hne
      exact ⟨t, List.mem_cons_of_mem u ht, by omega⟩

/-- The depth of a tree bounds the number of boxes around each of its boxes. -/
theorem length_le_of_mem_withAncestors {p : Box × List Box} (hp : p ∈ t.withAncestors around) :
    p.2.length ≤ around.length + t.depth := by
  induction t generalizing around with
  | mk box children ih =>
    rw [withAncestors, withAncestorsOfAll_eq_flatMap] at hp
    rcases List.mem_cons.1 hp with rfl | hp
    · exact Nat.le_add_right _ _
    · obtain ⟨c, hc, hp⟩ := List.mem_flatMap.1 hp
      have hle := ih c hc hp
      have hlt := depth_lt_levels hc
      rw [List.length_cons] at hle
      rw [depth]
      omega

/-- The depth of a tree is the number of boxes around one of its boxes. -/
theorem exists_mem_withAncestors (t : BoxTree) (around : List Box) :
    ∃ p ∈ t.withAncestors around, p.2.length = around.length + t.depth := by
  induction t generalizing around with
  | mk box children ih =>
    rw [withAncestors, withAncestorsOfAll_eq_flatMap, depth]
    rcases eq_or_ne children [] with rfl | hne
    · exact ⟨(box, around), List.mem_cons_self, rfl⟩
    · obtain ⟨c, hc, heq⟩ := exists_depth_eq hne
      obtain ⟨p, hp, hlength⟩ := ih c hc (box :: around)
      refine ⟨p, List.mem_cons_of_mem _ (List.mem_flatMap.2 ⟨c, hc, hp⟩), ?_⟩
      rw [hlength, heq, List.length_cons]
      omega

/-- The boxes of a tree that are furthest from its root. -/
def furthest (t : BoxTree) : List Box :=
  ((t.withAncestors []).filter fun p => decide (p.2.length = t.depth)).map Prod.fst

/-- Around a box of a tree there are some boxes, maybe none. -/
theorem exists_mem_withAncestors_iff (around : List Box) {b : Box} :
    (∃ outer, (b, outer) ∈ t.withAncestors around) ↔ b ∈ t.boxes := by
  rw [← map_fst_withAncestors t around, List.mem_map]
  simp

end BoxTree

namespace Nesting

variable {boxes : List Box} {trees : List BoxTree} {t : BoxTree} {l : Level} {n : Nested}

/-- In a forest there are as many boxes around a box as contain it. -/
theorem IsForest.length_eq (h : IsForest boxes trees) (ht : t ∈ trees) {p : Box × List Box}
    (hp : p ∈ t.withAncestors []) : p.2.length = (containers boxes p.1.bounds).length := by
  refine (h.ancestors p ?_).length_eq
  rw [BoxTree.withAncestorsOfAll_eq_flatMap]
  exact List.mem_flatMap.2 ⟨t, ht, hp⟩

/-- The depth of a tree in a forest is the largest number of boxes around one of its boxes. -/
theorem IsForest.isGreatest_depth (h : IsForest boxes trees) (ht : t ∈ trees) :
    IsGreatest {k | ∃ b ∈ t.boxes, k = (containers boxes b.bounds).length} t.depth := by
  constructor
  · obtain ⟨⟨b, around⟩, hp, hlength⟩ := t.exists_mem_withAncestors []
    refine ⟨b, (BoxTree.exists_mem_withAncestors_iff []).1 ⟨around, hp⟩, ?_⟩
    have := h.length_eq ht hp
    simp only [List.length_nil] at *
    omega
  · rintro k ⟨b, hb, rfl⟩
    obtain ⟨around, hp⟩ := (BoxTree.exists_mem_withAncestors_iff []).2 hb
    have hle := BoxTree.length_le_of_mem_withAncestors hp
    have := h.length_eq ht hp
    simp only [List.length_nil] at *
    omega

/-- The boxes furthest from the root of a tree are those with as many boxes around them as the tree
is deep. -/
theorem IsForest.mem_furthest_iff (h : IsForest boxes trees) (ht : t ∈ trees) {b : Box} :
    b ∈ t.furthest ↔ b ∈ t.boxes ∧ (containers boxes b.bounds).length = t.depth := by
  simp only [BoxTree.furthest, List.mem_map, List.mem_filter, decide_eq_true_iff, Prod.exists,
    exists_and_right, exists_eq_right, ← BoxTree.exists_mem_withAncestors_iff []]
  constructor
  · rintro ⟨around, hp, hlength⟩
    exact ⟨⟨around, hp⟩, by rw [← hlength]; exact (h.length_eq ht hp).symm⟩
  · rintro ⟨⟨around, hp⟩, hlength⟩
    exact ⟨around, hp, by rw [← hlength]; exact h.length_eq ht hp⟩

/-! ## Levels and trees -/

/-- A box is as many steps from its root as there are boxes that contain it. -/
theorem Leveled.depth_eq (hlaminar : PairwiseLaminar boxes)
    (hvalid : ∀ box ∈ boxes, box.bounds.Valid) (h : Leveled (ofBoxes boxes) l) :
    l.depth = (containers boxes l.nested.box.bounds).length := by
  induction h with
  | root hn hparent =>
    rw [(mem_ofBoxes_iff.1 hn).2, parentOf_eq_none_iff] at hparent
    rw [hparent, List.length_nil]
  | @step n above hn habove hparent ih =>
    obtain ⟨hbox, hparentOf⟩ := mem_ofBoxes_iff.1 hn
    have habove' := (mem_ofBoxes_iff.1 habove.mem).1
    have hmem := List.mem_of_getElem? habove'
    have hvalid' := hvalid n.box (List.mem_of_getElem? hbox)
    have hisParent := isParent_of_parentOf (hparentOf.symm.trans hparent) habove'
    -- The containers are the parent and the containers of the parent.
    have hnotMem : above.nested.box ∉ containers boxes above.nested.box.bounds := by
      rw [mem_containers, Bounds.strictlyContains_irrefl]
      simp
    have hperm : (above.nested.box :: containers boxes above.nested.box.bounds).Perm
        (containers boxes n.box.bounds) := by
      refine (List.perm_ext_iff_of_nodup (List.nodup_cons.2 ⟨hnotMem,
        hlaminar.nodup_containers (hvalid _ hmem)⟩) (hlaminar.nodup_containers hvalid')).2 fun a => ?_
      rw [mem_containers_iff hlaminar hvalid hvalid' hisParent, List.mem_cons]
    rw [← hperm.length_eq, List.length_cons, ih]

/-- A box whose steps lead to a root is in the tree of that root. -/
theorem Leveled.exists_subtree (hvalid : ∀ box ∈ boxes, box.bounds.Valid)
    (h : Leveled (ofBoxes boxes) l)
    (ht : (n, t) ∈ grow (sortBy Nested.largerFirst (ofBoxes boxes))) (hroot : l.root = n.index) :
    ∃ u ∈ t.subtrees, (l.nested, u) ∈ grow (sortBy Nested.largerFirst (ofBoxes boxes)) := by
  have hranked := ranked_sortBy hvalid
  induction h with
  | @root m hm hparent =>
    have hn := mem_sortBy.1 (grown_of_mem_grow ht).mem
    obtain rfl : m = n := List.inj_on_of_nodup_map (nodup_index_ofBoxes boxes) hm hn hroot
    exact ⟨t, BoxTree.mem_subtrees_self t, ht⟩
  | @step m above hm _ hparent ih =>
    obtain ⟨u, hu, hgrown⟩ := ih hroot
    obtain ⟨v, hv⟩ := exists_mem_grow (mem_sortBy.2 hm : m ∈ sortBy Nested.largerFirst _)
    -- The tree of the box is directly inside the one of its parent.
    have hchild : v ∈ u.children := by
      rw [tree_of_mem_grow hranked hgrown, mem_sortBy]
      exact List.mem_map.2 ⟨(m, v), List.mem_filter.2 ⟨hv, decide_eq_true hparent⟩, rfl⟩
    refine ⟨v, (BoxTree.subtrees_sublist hu).subset ?_, hv⟩
    exact (BoxTree.children_sublist_subtrees u).subset hchild

/-- Steps from a box inside a tree lead to where those from the root of the tree lead. -/
theorem Leveled.exists_of_mem_boxes (hl : Leveled (ofBoxes boxes) l)
    (ht : (l.nested, t) ∈ grow (sortBy Nested.largerFirst (ofBoxes boxes))) {c : BoxTree}
    (hc : c ∈ t.children) {b : Box} (hb : b ∈ c.boxes) {i : Nat} (hi : boxes[i]? = some b) :
    ∃ m, Leveled (ofBoxes boxes) m ∧ m.root = l.root ∧ m.nested.index = i ∧ m.nested.box = b := by
  induction t generalizing l c with
  | mk box children ih =>
    obtain ⟨k, hk, hparent⟩ := (grown_of_mem_grow ht).children c hc
    have hgrown := grown_of_mem_grow hk
    have hentry := mem_sortBy.1 hgrown.mem
    rw [BoxTree.boxes_eq] at hb
    rcases List.mem_cons.1 hb with rfl | hb
    · -- The box has the parent of the entry that the tree was grown for, as it is the same box.
      refine ⟨_, .step (n := ⟨i, c.box, parentOf boxes c.box.bounds⟩)
        (mem_ofBoxes_iff.2 ⟨hi, rfl⟩) hl ?_, rfl, rfl, rfl⟩
      rw [← hparent, (mem_ofBoxes_iff.1 hentry).2, hgrown.box]
    · obtain ⟨d, hd, hb⟩ := List.mem_flatMap.1 hb
      obtain ⟨m, hm, hroot, hindex, hbox⟩ := ih c hc (.step hentry hl hparent) hk hd hb
      exact ⟨m, hm, hroot, hindex, hbox⟩

/-- A box whose steps lead to a root is one of its tree. -/
theorem Leveled.box_mem (hvalid : ∀ box ∈ boxes, box.bounds.Valid) (h : Leveled (ofBoxes boxes) l)
    (hgrown : (n, t) ∈ grow (sortBy Nested.largerFirst (ofBoxes boxes)))
    (hroot : l.root = n.index) : l.nested.box ∈ t.boxes := by
  obtain ⟨u, hu, hgrown⟩ := h.exists_subtree hvalid hgrown hroot
  rw [← BoxTree.map_box_subtrees, ← (grown_of_mem_grow hgrown).box]
  exact List.mem_map_of_mem hu

/-- Whatever is furthest from the root of a tree has a level below the root, if the tree has more
than its root. -/
theorem exists_level_of_mem_furthest (hlaminar : PairwiseLaminar boxes)
    (hvalid : ∀ box ∈ boxes, box.bounds.Valid) (hn : n ∈ roots (ofBoxes boxes))
    (hgrown : (n, t) ∈ grow (sortBy Nested.largerFirst (ofBoxes boxes)))
    (ht : t ∈ Nesting.trees (ofBoxes boxes)) (hne : t.depth ≠ 0) {i : Nat} {b : Box}
    (hi : boxes[i]? = some b) (hb : b ∈ t.furthest) :
    ∃ m ∈ levels (ofBoxes boxes), m.root = n.index ∧ m.nested.index = i ∧ m.depth = t.depth := by
  obtain ⟨hentry, hparent⟩ := List.mem_filter.1 (mem_sortBy.1 hn)
  obtain ⟨hb, hlength⟩ := ((isForest_trees hlaminar hvalid).mem_furthest_iff ht).1 hb
  rw [BoxTree.boxes_eq] at hb
  rcases List.mem_cons.1 hb with rfl | hb
  · rw [containers_root ht] at hlength
    exact absurd hlength.symm hne
  · obtain ⟨c, hc, hb⟩ := List.mem_flatMap.1 hb
    have hstart : Leveled (ofBoxes boxes) ⟨n, n.index, 0⟩ :=
      .root hentry (Option.isNone_iff_eq_none.1 hparent)
    obtain ⟨m, hm, hroot, hindex, rfl⟩ := hstart.exists_of_mem_boxes hgrown hc hb hi
    exact ⟨m, (mem_levels_iff hvalid).2 hm, hroot, hindex,
      (hm.depth_eq hlaminar hvalid).trans hlength⟩

/-- In a forest some box of the list is furthest from the root of a tree. -/
theorem IsForest.exists_mem_furthest (h : IsForest boxes trees) (ht : t ∈ trees) :
    ∃ (i : Nat) (b : Box), boxes[i]? = some b ∧ b ∈ t.furthest := by
  obtain ⟨b, hb, hlength⟩ := (h.isGreatest_depth ht).1
  have hmem : b ∈ boxes := by
    rw [← h.perm.mem_iff, BoxTree.boxesOfAll_eq_flatMap]
    exact List.mem_flatMap.2 ⟨t, ht, hb⟩
  obtain ⟨i, hi⟩ := List.mem_iff_getElem?.1 hmem
  exact ⟨i, b, hi, (h.mem_furthest_iff ht).2 ⟨hb, hlength.symm⟩⟩

/-- The deepest box below a root is as many steps from it as its tree is deep. If that is any step,
it is the first box of the list that is furthest from the root. -/
theorem exists_deepest (hlaminar : PairwiseLaminar boxes)
    (hvalid : ∀ box ∈ boxes, box.bounds.Valid) (hn : n ∈ roots (ofBoxes boxes))
    (hgrown : (n, t) ∈ grow (sortBy Nested.largerFirst (ofBoxes boxes)))
    (ht : t ∈ Nesting.trees (ofBoxes boxes)) :
    ∃ l, deepest (levels (ofBoxes boxes)) n = some l ∧ l.depth = t.depth ∧
      (t.depth ≠ 0 →
        boxes.find? (fun b => decide (b ∈ t.furthest)) = some l.nested.box) := by
  have hforest := isForest_trees hlaminar hvalid
  obtain ⟨l, hl⟩ := Option.isSome_iff_exists.1 (isSome_deepest hn)
  obtain ⟨⟨hmem, hroot⟩, hmost⟩ := deepest_spec hl
  have hleveled := (mem_levels_iff hvalid).1 hmem
  have hinTree := hleveled.box_mem hvalid hgrown hroot
  have hcontainers := hleveled.depth_eq hlaminar hvalid
  -- It is a box of the tree, so it is not deeper than the tree.
  have hle : l.depth ≤ t.depth := by
    rw [hcontainers]
    exact (hforest.isGreatest_depth ht).2 ⟨_, hinTree, rfl⟩
  have hge : t.depth ≤ l.depth := by
    by_contra hlt
    obtain ⟨i, b, hi, hb⟩ := hforest.exists_mem_furthest ht
    obtain ⟨m, hm, hmroot, -, hdepth⟩ :=
      exists_level_of_mem_furthest hlaminar hvalid hn hgrown ht (by omega) hi hb
    have hdeeper := hmost m hm hmroot
    rw [DeeperOrFirst] at hdeeper
    omega
  refine ⟨l, hl, by omega, fun hne => ?_⟩
  obtain ⟨hlt, hget⟩ := List.getElem?_eq_some_iff.1 (mem_ofBoxes_iff.1 hleveled.mem).1
  refine List.find?_eq_some_iff_getElem.2 ⟨?_, l.nested.index, hlt, hget, fun j hj => ?_⟩
  · exact decide_eq_true ((hforest.mem_furthest_iff ht).2 ⟨hinTree, by omega⟩)
  · -- A box before it that is as far from the root would have been taken.
    rw [Bool.not_eq_true', decide_eq_false_iff_not]
    intro hb
    obtain ⟨m, hm, hmroot, hindex, hdepth⟩ := exists_level_of_mem_furthest hlaminar hvalid hn hgrown
      ht hne (List.getElem?_eq_getElem _) hb
    have hdeeper := hmost m hm hmroot
    rw [DeeperOrFirst] at hdeeper
    omega

/-! ## Warnings -/

/-- What is made of the entries of a list in two ways, where the second way gives something for
those entries for which the first gives something with a property, matches one by one. -/
theorem forall₂_filterMap {α β γ : Type} {R : β → γ → Prop} {f : α → Option β} {g : α → Option γ}
    {p : β → Bool} {as : List α}
    (h : ∀ a ∈ as, ∃ b, f a = some b ∧
      ((p b = false ∧ g a = none) ∨ (p b = true ∧ ∃ c, g a = some c ∧ R b c))) :
    List.Forall₂ R ((as.filterMap f).filter p) (as.filterMap g) := by
  induction as with
  | nil => exact .nil
  | cons a as ih =>
    have hrest := ih fun x hx => h x (List.mem_cons_of_mem a hx)
    obtain ⟨b, hf, ⟨hp, hg⟩ | ⟨hp, c, hg, hR⟩⟩ := h a List.mem_cons_self
    · rwa [List.filterMap_cons_some hf, List.filter_cons_of_neg (by simp [hp]),
        List.filterMap_cons_none hg]
    · rw [List.filterMap_cons_some hf, List.filter_cons_of_pos hp, List.filterMap_cons_some hg]
      exact .cons hR hrest

/-- The problem names the depth of a tree, at the first box of a list that is furthest from the root
of the tree. -/
def NamesDepth (boxes : List Box) (maxDepth : Nat) (t : BoxTree) (d : Diagnostic) : Prop :=
  ∃ b, boxes.find? (fun c => decide (c ∈ t.furthest)) = some b ∧
    d = .deepNesting b.bounds.topLeft t.depth maxDepth

/-- The trees that are too deep are warned of, each once and in their order. -/
theorem forall₂_depthWarnings (maxDepth : Nat) (hlaminar : PairwiseLaminar boxes)
    (hvalid : ∀ box ∈ boxes, box.bounds.Valid) :
    List.Forall₂ (NamesDepth boxes maxDepth)
      ((Nesting.trees (ofBoxes boxes)).filter fun t => decide (maxDepth < t.depth))
      (depthWarnings maxDepth (ofBoxes boxes)) := by
  refine forall₂_filterMap fun n hn => ?_
  have hentry := (List.mem_filter.1 (mem_sortBy.1 hn)).1
  obtain ⟨t, hgrown⟩ := exists_mem_grow (mem_sortBy.2 hentry : n ∈ sortBy Nested.largerFirst _)
  have hfind := find?_grow (ranked_sortBy hvalid).nodup hgrown
  have ht : t ∈ Nesting.trees (ofBoxes boxes) :=
    List.mem_filterMap.2 ⟨n, hn, by rw [hfind, Option.map_some]⟩
  obtain ⟨l, hl, hdepth, hfirst⟩ := exists_deepest hlaminar hvalid hn hgrown ht
  refine ⟨t, by rw [hfind, Option.map_some], ?_⟩
  rw [hl, Option.bind_some, hdepth]
  by_cases hdeep : maxDepth < t.depth
  · exact .inr ⟨decide_eq_true hdeep, _, if_pos hdeep, _, hfirst (by omega), rfl⟩
  · exact .inl ⟨decide_eq_false hdeep, if_neg hdeep⟩

end Nesting

namespace Hierarchy

/-- For boxes of any rectangles in any order, if no conflict is found, the warnings name the trees
with more than `maxDepth` levels, each once and in the order of the trees. A warning gives the depth
of the tree and stands at the first box of the list that is furthest from the root. The depth of a
tree is the largest number of boxes of the list that strictly contain one of its boxes. -/
theorem warnings_ofBoxes (maxDepth : Nat) (boxes : List Box)
    (hvalid : ∀ box ∈ boxes, box.bounds.Valid) (hnone : (ofBoxes maxDepth boxes).errors = []) :
    List.Forall₂ (Nesting.NamesDepth boxes maxDepth)
        ((ofBoxes maxDepth boxes).trees.filter fun t => decide (maxDepth < t.depth))
        (ofBoxes maxDepth boxes).warnings ∧
      ∀ t ∈ (ofBoxes maxDepth boxes).trees,
        IsGreatest {k | ∃ b ∈ t.boxes, k = (Nesting.containers boxes b.bounds).length} t.depth := by
  have hlaminar := errors_ofBoxes_eq_nil_iff.1 hnone
  rw [trees_ofBoxes hnone]
  exact ⟨Nesting.forall₂_depthWarnings maxDepth hlaminar hvalid,
    fun t ht => (Nesting.isForest_trees hlaminar hvalid).isGreatest_depth ht⟩

/-- Boxes that make two trees, one of them with two boxes two levels below its root. -/
def equallyDeep : List Box :=
  [⟨⟨5, 2, 7, 5⟩, none⟩, ⟨⟨0, 10, 9, 19⟩, none⟩, ⟨⟨2, 2, 4, 5⟩, none⟩, ⟨⟨1, 1, 8, 8⟩, none⟩,
    ⟨⟨3, 12, 3, 15⟩, none⟩, ⟨⟨0, 0, 9, 9⟩, some "all"⟩]

/-- Of two boxes that are furthest from the root the first one in the list is named, though the
other stands further up, and a tree with a single level below its root is not too deep. -/
theorem warnings_ofBoxes_equally_deep :
    (List.Forall₂ (Nesting.NamesDepth equallyDeep 1)
          ((ofBoxes 1 equallyDeep).trees.filter fun t => decide (1 < t.depth))
          (ofBoxes 1 equallyDeep).warnings ∧
        ∀ t ∈ (ofBoxes 1 equallyDeep).trees,
          IsGreatest {k | ∃ b ∈ t.boxes, k = (Nesting.containers equallyDeep b.bounds).length}
            t.depth) ∧
      (ofBoxes 1 equallyDeep).trees.map (·.depth) = [2, 1] ∧
      (ofBoxes 1 equallyDeep).warnings = [.deepNesting ⟨5, 2⟩ 2 1] :=
  ⟨warnings_ofBoxes 1 equallyDeep (by decide +kernel) (by decide +kernel), by decide +kernel,
    by decide +kernel⟩

end Hierarchy

end Wireframe
