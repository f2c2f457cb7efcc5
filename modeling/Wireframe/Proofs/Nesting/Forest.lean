import Mathlib.Data.List.Perm.Basic
import Mathlib.Tactic.Linarith
import Wireframe.Nesting
import Wireframe.Proofs.Trees

/-!
# The forest holds every box once

The trees that are made of a list of boxes hold each of them once (`boxes_trees_perm`), and what is
directly inside a box lies strictly inside it (`wellNested_trees`). Both go by induction on the list
that the trees are grown from, larger boxes first. What carries the first is that the trees of those
boxes whose parents are still to come hold all boxes so far: a box that is added takes its children
out of them and joins them itself.
-/

namespace Wireframe

/-- What lies strictly inside a rectangle is smaller. -/
theorem Bounds.area_lt_of_strictlyContains {a b : Bounds} (hb : b.Valid)
    (h : a.strictlyContains b = true) : b.area < a.area := by
  obtain ⟨htop, hleft, hbottom, hright⟩ := (strictlyContains_iff a b).1 h
  obtain ⟨hrows, hcols⟩ := hb
  have hwidth : b.width < a.width := by
    simp only [width]
    omega
  have hheight : b.height < a.height := by
    simp only [height]
    omega
  have hwidth0 : 0 ≤ b.width := by
    simp only [width]
    omega
  have hheight0 : 0 ≤ b.height := by
    simp only [height]
    omega
  calc b.area = b.width * b.height := rfl
    _ ≤ a.width * b.height := Int.mul_le_mul_of_nonneg_right (le_of_lt hwidth) hheight0
    _ < a.width * a.height := Int.mul_lt_mul_of_pos_left hheight (by omega)
    _ = a.area := rfl

/-- What is directly inside a box of a tree lies strictly inside it. -/
inductive BoxTree.WellNested : BoxTree → Prop where
  /-- A box with well nested trees inside. -/
  | mk (box : Box) (children : List BoxTree)
    (hinside : ∀ c ∈ children, box.bounds.strictlyContains c.box.bounds = true)
    (hchildren : ∀ c ∈ children, WellNested c) : WellNested ⟨box, children⟩

namespace Nesting

variable {boxes : List Box} {xs nested : List Nested} {n m : Nested}

/-! ## Parents -/

/-- Of two boxes one that is not larger than the other is chosen. -/
theorem chooses_smaller :
    Chooses smaller fun a b => a.1.bounds.area ≤ b.1.bounds.area where
  refl := fun _ => le_refl _
  trans := le_trans
  first := fun _ => rfl
  next := fun old a => by
    rw [smaller]
    split
    · next hlt => exact .inr ⟨rfl, le_of_lt hlt⟩
    · next hge => exact .inl ⟨rfl, not_lt.1 hge⟩

/-- The parent of a rectangle is a box of the list that strictly contains it. -/
theorem parentOf_spec {b : Bounds} {p : Nat} (h : parentOf boxes b = some p) :
    ∃ box, boxes[p]? = some box ∧ box.bounds.strictlyContains b = true := by
  obtain ⟨⟨box, index⟩, hfound, hindex⟩ := Option.map_eq_some_iff.1 h
  simp only at hindex
  subst hindex
  obtain ⟨hmem, hcontains⟩ := List.mem_filter.1 (chooses_smaller.of_foldl_eq_some hfound).1
  exact ⟨box, List.mk_mem_zipIdx_iff_getElem?.1 hmem, hcontains⟩

/-- The entries of a list of boxes are its boxes, each with its place and its parent. -/
theorem mem_ofBoxes_iff :
    n ∈ ofBoxes boxes ↔
      boxes[n.index]? = some n.box ∧ n.parent = parentOf boxes n.box.bounds := by
  simp only [ofBoxes, List.mem_map, Prod.exists, List.mk_mem_zipIdx_iff_getElem?]
  constructor
  · rintro ⟨box, index, hbox, rfl⟩
    exact ⟨hbox, rfl⟩
  · rintro ⟨hbox, hparent⟩
    refine ⟨n.box, n.index, hbox, ?_⟩
    rw [← hparent]

/-- The boxes of the entries are those of the list. -/
theorem map_box_ofBoxes (boxes : List Box) : (ofBoxes boxes).map (·.box) = boxes := by
  rw [ofBoxes, List.map_map]
  exact List.zipIdx_map_fst 0 boxes

/-- No two entries have the same place. -/
theorem nodup_index_ofBoxes (boxes : List Box) : ((ofBoxes boxes).map (·.index)).Nodup := by
  have hindex : (ofBoxes boxes).map (·.index) = boxes.zipIdx.map Prod.snd := by
    rw [ofBoxes, List.map_map]
    rfl
  rw [hindex, List.zipIdx_map_snd]
  exact List.nodup_range'

/-- The parent of an entry strictly contains it. -/
theorem strictlyContains_of_parent (hn : n ∈ ofBoxes boxes) (hm : m ∈ ofBoxes boxes)
    (hparent : n.parent = some m.index) :
    m.box.bounds.strictlyContains n.box.bounds = true := by
  rw [(mem_ofBoxes_iff.1 hn).2] at hparent
  obtain ⟨box, hbox, hcontains⟩ := parentOf_spec hparent
  rw [(mem_ofBoxes_iff.1 hm).1, Option.some.injEq] at hbox
  rw [hbox]
  exact hcontains

/-- The parent of an entry is an entry. -/
theorem exists_parent {p : Nat} (hn : n ∈ ofBoxes boxes) (hparent : n.parent = some p) :
    ∃ m ∈ ofBoxes boxes, m.index = p := by
  rw [(mem_ofBoxes_iff.1 hn).2] at hparent
  obtain ⟨box, hbox, -⟩ := parentOf_spec hparent
  exact ⟨⟨p, box, parentOf boxes box.bounds⟩, mem_ofBoxes_iff.2 ⟨hbox, rfl⟩, rfl⟩

/-! ## Growing trees -/

/-- Entries that trees can be grown from: no two have the same place, and the parent of an entry is
neither the entry itself nor one behind it. -/
structure Ranked (xs : List Nested) : Prop where
  /-- No two entries have the same place. -/
  nodup : (xs.map (·.index)).Nodup
  /-- No entry is its own parent. -/
  parent_ne : ∀ n ∈ xs, n.parent ≠ some n.index
  /-- No parent stands behind an entry. -/
  parent_before : xs.Pairwise fun a b => a.parent ≠ some b.index

/-- Without the first one the entries are ranked as well. -/
theorem Ranked.tail (h : Ranked (n :: xs)) : Ranked xs where
  nodup := (List.nodup_cons.1 h.nodup).2
  parent_ne := fun m hm => h.parent_ne m (List.mem_cons_of_mem n hm)
  parent_before := (List.pairwise_cons.1 h.parent_before).2

/-- Whether the parent of an entry is none of the given ones. -/
def isTop (xs : List Nested) (n : Nested) : Bool :=
  xs.all fun m => decide (n.parent ≠ some m.index)

/-- One tree is grown for each entry, in their order. -/
theorem map_fst_grow (xs : List Nested) : (grow xs).map Prod.fst = xs := by
  induction xs with
  | nil => rfl
  | cons n xs ih => rw [grow, List.map_cons, ih]

/-- The children of an entry are among those whose parents are still to come. -/
theorem filter_parent_grow (h : Ranked (n :: xs)) :
    ((grow xs).filter fun t => decide (t.1.parent = some n.index)) =
      ((grow xs).filter fun t => isTop xs t.1).filter fun t =>
        decide (t.1.parent = some n.index) := by
  rw [List.filter_filter]
  refine List.filter_congr fun t _ => ?_
  rw [Bool.eq_iff_iff, Bool.and_eq_true, decide_eq_true_iff]
  refine ⟨fun hparent => ⟨hparent, ?_⟩, And.left⟩
  rw [isTop, List.all_eq_true]
  intro m hm
  rw [decide_eq_true_iff, hparent]
  intro heq
  -- The entry would share its place with one behind it.
  refine (List.nodup_cons.1 h.nodup).1 ?_
  show n.index ∈ xs.map (·.index)
  rw [Option.some.inj heq]
  exact List.mem_map_of_mem hm

/-- The trees whose parents are still to come hold all boxes so far, each once. -/
theorem boxes_grow_perm (h : Ranked xs) :
    (((grow xs).filter fun t => isTop xs t.1).flatMap fun t => t.2.boxes).Perm
      (xs.map (·.box)) := by
  induction xs with
  | nil => exact .nil
  | cons n xs ih =>
    have htop : isTop (n :: xs) n = true := by
      rw [isTop, List.all_eq_true]
      intro m hm
      rw [decide_eq_true_iff]
      rcases List.mem_cons.1 hm with rfl | hm
      · exact h.parent_ne m List.mem_cons_self
      · exact (List.pairwise_cons.1 h.parent_before).1 m hm
    -- The other trees at the top are those that were there and are no children of the new box.
    have hrest : ((grow xs).filter fun t => isTop (n :: xs) t.1) =
        ((grow xs).filter fun t => isTop xs t.1).filter fun t =>
          !decide (t.1.parent = some n.index) := by
      rw [List.filter_filter]
      refine List.filter_congr fun t _ => ?_
      simp [isTop]
    have hchildren := filter_parent_grow h
    rw [grow, List.filter_cons, if_pos htop, List.flatMap_cons, List.map_cons, BoxTree.boxes_eq,
      hrest, hchildren]
    dsimp only
    generalize ((grow xs).filter fun t => isTop xs t.1) = tops at ih
    refine List.Perm.cons _ ?_
    have hsorted := (sortBy_perm BoxTree.before ((tops.filter fun t =>
      decide (t.1.parent = some n.index)).map Prod.snd)).flatMap_right BoxTree.boxes
    rw [List.flatMap_map] at hsorted
    have hparts := (List.filter_append_perm (fun t : Nested × BoxTree =>
      decide (t.1.parent = some n.index)) tops).flatMap_right fun t => t.2.boxes
    rw [List.flatMap_append] at hparts
    exact ((hsorted.append_right _).trans hparts).trans (ih h.tail)

/-- The trees grown are well nested when parents strictly contain their children. -/
theorem wellNested_grow
    (hinside : ∀ n ∈ xs, ∀ m ∈ xs, n.parent = some m.index →
      m.box.bounds.strictlyContains n.box.bounds = true) :
    ∀ t ∈ grow xs, t.2.box = t.1.box ∧ t.2.WellNested := by
  induction xs with
  | nil => simp [grow]
  | cons n xs ih =>
    have hgrown := ih fun a ha b hb =>
      hinside a (List.mem_cons_of_mem n ha) b (List.mem_cons_of_mem n hb)
    intro t ht
    rw [grow] at ht
    rcases List.mem_cons.1 ht with rfl | ht
    · refine ⟨rfl, .mk _ _ (fun c hc => ?_) fun c hc => ?_⟩
      · obtain ⟨t, ht, rfl⟩ := List.mem_map.1 (mem_sortBy.1 hc)
        obtain ⟨ht, hparent⟩ := List.mem_filter.1 ht
        have hmem : t.1 ∈ xs := by
          rw [← map_fst_grow xs]
          exact List.mem_map_of_mem ht
        rw [(hgrown t ht).1]
        exact hinside t.1 (List.mem_cons_of_mem n hmem) n List.mem_cons_self
          (of_decide_eq_true hparent)
      · obtain ⟨t, ht, rfl⟩ := List.mem_map.1 (mem_sortBy.1 hc)
        exact (hgrown t (List.mem_filter.1 ht).1).2
    · exact hgrown t ht

/-! ## The forest of a list of boxes -/

/-- Comparing by area is total and transitive, so sorted entries stand larger ones first. -/
theorem pairwise_largerFirst (nested : List Nested) :
    (sortBy Nested.largerFirst nested).Pairwise fun a b =>
      b.box.bounds.area ≤ a.box.bounds.area := by
  have htotal : ∀ a b : Nested, a.largerFirst b = true ∨ b.largerFirst a = true := by
    intro a b
    simp only [Nested.largerFirst, decide_eq_true_iff]
    omega
  have htrans : ∀ a b c : Nested, a.largerFirst b = true → b.largerFirst c = true →
      a.largerFirst c = true := by
    intro a b c
    simp only [Nested.largerFirst, decide_eq_true_iff]
    omega
  refine (pairwise_sortBy htotal htrans nested).imp fun h => ?_
  exact of_decide_eq_true h

/-- The boxes of a list, larger ones first, are ranked. -/
theorem ranked_sortBy (hvalid : ∀ box ∈ boxes, box.bounds.Valid) :
    Ranked (sortBy Nested.largerFirst (ofBoxes boxes)) := by
  have hentry : ∀ n ∈ ofBoxes boxes, n.box ∈ boxes := fun n hn =>
    List.mem_of_getElem? (mem_ofBoxes_iff.1 hn).1
  have hsmaller : ∀ n ∈ ofBoxes boxes, ∀ m ∈ ofBoxes boxes, n.parent = some m.index →
      n.box.bounds.area < m.box.bounds.area := fun n hn m hm hparent =>
    Bounds.area_lt_of_strictlyContains (hvalid n.box (hentry n hn))
      (strictlyContains_of_parent hn hm hparent)
  refine ⟨?_, fun n hn hparent => ?_, ?_⟩
  · exact (((sortBy_perm _ _).map _).nodup_iff).2 (nodup_index_ofBoxes boxes)
  · have hn := mem_sortBy.1 hn
    exact absurd (hsmaller n hn n hn hparent) (lt_irrefl _)
  · refine (pairwise_largerFirst (ofBoxes boxes)).imp_of_mem fun {a b} ha hb harea hparent => ?_
    have hlt := hsmaller a (mem_sortBy.1 ha) b (mem_sortBy.1 hb) hparent
    omega

/-- The tree of an entry is found by its place. -/
theorem find?_grow (hnodup : (xs.map (·.index)).Nodup) {t : Nested × BoxTree} (ht : t ∈ grow xs) :
    (grow xs).find? (fun u => decide (u.1.index = t.1.index)) = some t := by
  have hindex : ((grow xs).map fun u => u.1.index).Nodup := by
    have hmap : (grow xs).map (fun u => u.1.index) = xs.map (·.index) := by
      rw [← map_fst_grow xs, List.map_map, map_fst_grow]
      rfl
    rw [hmap]
    exact hnodup
  generalize grow xs = grown at ht hindex
  induction grown with
  | nil => simp at ht
  | cons u grown ih =>
    obtain ⟨hnew, hrest⟩ := List.nodup_cons.1 hindex
    rcases List.mem_cons.1 ht with rfl | ht
    · rw [List.find?_cons_of_pos (by simp)]
    · have hne : u.1.index ≠ t.1.index := by
        intro heq
        refine hnew ?_
        show u.1.index ∈ grown.map fun u => u.1.index
        rw [heq]
        exact List.mem_map_of_mem (f := fun u : Nested × BoxTree => u.1.index) ht
      rw [List.find?_cons_of_neg (by simpa using hne), ih ht hrest]

/-- A tree is grown for every entry. -/
theorem exists_mem_grow (hn : n ∈ xs) : ∃ t, (n, t) ∈ grow xs := by
  rw [← map_fst_grow xs] at hn
  obtain ⟨⟨m, t⟩, ht, rfl⟩ := List.mem_map.1 hn
  exact ⟨t, ht⟩

/-- One tree is grown for a place. -/
theorem eq_of_index_eq (hnodup : (xs.map (·.index)).Nodup) {u v : Nested × BoxTree}
    (hu : u ∈ grow xs) (hv : v ∈ grow xs) (h : u.1.index = v.1.index) : u = v := by
  have hfind := find?_grow hnodup hu
  rw [h, find?_grow hnodup hv] at hfind
  exact (Option.some.inj hfind).symm

/-- The trees of the forest are those grown for boxes without a parent. -/
theorem trees_perm (hnodup : (nested.map (·.index)).Nodup) :
    (trees nested).Perm (((grow (sortBy Nested.largerFirst nested)).filter fun t =>
      t.1.parent.isNone).map Prod.snd) := by
  have hsorted := sortBy_perm Nested.largerFirst nested
  have hnodup' := ((hsorted.map (·.index)).nodup_iff).2 hnodup
  rw [trees]
  generalize sortBy Nested.largerFirst nested = sorted at hsorted hnodup'
  have hroots : (roots nested).Perm
      (((grow sorted).filter fun t => t.1.parent.isNone).map Prod.fst) := by
    have hfst : ((grow sorted).filter fun t => t.1.parent.isNone).map Prod.fst =
        sorted.filter fun n => n.parent.isNone := by
      conv_rhs => rw [← map_fst_grow sorted, List.filter_map]
      rfl
    rw [hfst, roots]
    exact (sortBy_perm _ _).trans (hsorted.symm.filter _)
  refine (hroots.filterMap _).trans ?_
  rw [List.filterMap_map, ← List.filterMap_eq_map]
  refine List.Perm.of_eq (List.filterMap_congr fun t ht => ?_)
  simp only [Function.comp_apply]
  rw [find?_grow hnodup' (List.mem_filter.1 ht).1]
  rfl

/-- Among all boxes of a list those without a parent are the ones at the top. -/
theorem isTop_eq_isNone (hn : n ∈ ofBoxes boxes) :
    isTop (sortBy Nested.largerFirst (ofBoxes boxes)) n = n.parent.isNone := by
  cases hparent : n.parent with
  | none => simp [isTop, hparent]
  | some p =>
    obtain ⟨m, hm, rfl⟩ := exists_parent hn hparent
    rw [Option.isNone_some, isTop, List.all_eq_false]
    exact ⟨m, mem_sortBy.2 hm, by simp [hparent]⟩

/-- The trees of a list of boxes hold its boxes, each once. -/
theorem boxes_trees_perm (hvalid : ∀ box ∈ boxes, box.bounds.Valid) :
    (BoxTree.boxesOfAll (trees (ofBoxes boxes))).Perm boxes := by
  have htops : ((grow (sortBy Nested.largerFirst (ofBoxes boxes))).filter fun t =>
        t.1.parent.isNone) =
      (grow (sortBy Nested.largerFirst (ofBoxes boxes))).filter fun t =>
        isTop (sortBy Nested.largerFirst (ofBoxes boxes)) t.1 := by
    refine List.filter_congr fun t ht => ?_
    have hmem : t.1 ∈ sortBy Nested.largerFirst (ofBoxes boxes) := by
      rw [← map_fst_grow (sortBy Nested.largerFirst (ofBoxes boxes))]
      exact List.mem_map_of_mem ht
    rw [isTop_eq_isNone (mem_sortBy.1 hmem)]
  have hforest := (trees_perm (nodup_index_ofBoxes boxes)).flatMap_right BoxTree.boxes
  rw [List.flatMap_map, htops] at hforest
  have hsorted := (sortBy_perm Nested.largerFirst (ofBoxes boxes)).map (·.box)
  rw [map_box_ofBoxes] at hsorted
  rw [BoxTree.boxesOfAll_eq_flatMap]
  exact (hforest.trans (boxes_grow_perm (ranked_sortBy hvalid))).trans hsorted

/-- The trees of a list of boxes are well nested. -/
theorem wellNested_trees (boxes : List Box) : ∀ t ∈ trees (ofBoxes boxes), t.WellNested := by
  intro t ht
  have hmem := (trees_perm (nodup_index_ofBoxes boxes)).mem_iff.1 ht
  obtain ⟨u, hu, rfl⟩ := List.mem_map.1 hmem
  have hinside : ∀ n ∈ sortBy Nested.largerFirst (ofBoxes boxes),
      ∀ m ∈ sortBy Nested.largerFirst (ofBoxes boxes), n.parent = some m.index →
        m.box.bounds.strictlyContains n.box.bounds = true := fun n hn m hm hparent =>
    strictlyContains_of_parent (mem_sortBy.1 hn) (mem_sortBy.1 hm) hparent
  exact (wellNested_grow hinside u (List.mem_filter.1 hu).1).2

end Nesting

end Wireframe
