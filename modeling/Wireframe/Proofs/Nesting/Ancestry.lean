import Mathlib.Data.List.Pairwise
import Wireframe.Proofs.Nesting.Forest
import Wireframe.Proofs.Nesting.Laminar

/-!
# The forest is the order of containment

In the trees that are made of a list of boxes, the boxes around a box are exactly those that
strictly contain it, and the smallest of them is its parent (`forest_ofBoxes`). A parent is chosen
for each box on its own. What makes the choices fit together is that all rectangles around one
rectangle overlap, so that without a conflict they contain one another: the containers of a box are
its parent and the containers of its parent (`mem_containers_iff`), and the rest is an induction
down a tree (`surrounded_withAncestors`).
-/

namespace Wireframe

/-! ## Reading order -/

/-- Of two positions one comes before the other. -/
theorem Position.before_total (p q : Position) : p.before q = true ∨ q.before p = true := by
  simp only [before, Bool.or_eq_true, Bool.and_eq_true, decide_eq_true_iff]
  omega

/-- What comes before an earlier position comes before a later one. -/
theorem Position.before_trans (p q r : Position) (hpq : p.before q = true)
    (hqr : q.before r = true) : p.before r = true := by
  simp only [before, Bool.or_eq_true, Bool.and_eq_true, decide_eq_true_iff] at *
  omega

/-- Two positions that each come before the other are the same. -/
theorem Position.eq_of_before {p q : Position} (hpq : p.before q = true)
    (hqp : q.before p = true) : p = q := by
  obtain ⟨row, col⟩ := p
  obtain ⟨row', col'⟩ := q
  simp only [before, Bool.or_eq_true, Bool.and_eq_true, decide_eq_true_iff] at hpq hqp
  rw [mk.injEq]
  omega

/-- What is sorted by the reading order of its rectangles is in reading order. -/
theorem Bounds.pairwise_sortBy_before {α : Type} (bounds : α → Bounds) (xs : List α) :
    (sortBy (fun a c => (bounds a).before (bounds c)) xs).Pairwise fun a c =>
      (bounds a).before (bounds c) = true :=
  pairwise_sortBy (fun a c => Position.before_total (bounds a).topLeft (bounds c).topLeft)
    (fun a c d => Position.before_trans (bounds a).topLeft (bounds c).topLeft (bounds d).topLeft) xs

/-! ## Containers of one rectangle -/

namespace Bounds

variable {a b c : Bounds}

/-- What contains a container contains its content. -/
theorem strictlyContains_trans (hab : a.strictlyContains b = true)
    (hbc : b.strictlyContains c = true) : a.strictlyContains c = true := by
  rw [strictlyContains_iff] at *
  omega

/-- No rectangle strictly contains itself. -/
theorem strictlyContains_irrefl (b : Bounds) : b.strictlyContains b = false := by
  rw [Bool.eq_false_iff, ne_eq, strictlyContains_iff]
  omega

/-- Being laminar is mutual. -/
theorem Laminar.symm (h : a.Laminar b) : b.Laminar a := by
  rcases h with hab | hba | hapart
  · exact .inr (.inl hab)
  · exact .inl hba
  · exact .inr (.inr (by rw [overlaps_comm]; exact hapart))

/-- Two laminar rectangles around a third one lie one inside the other. -/
theorem Laminar.nested (h : a.Laminar b) (hc : c.Valid) (hac : a.strictlyContains c = true)
    (hbc : b.strictlyContains c = true) :
    a.strictlyContains b = true ∨ b.strictlyContains a = true := by
  rcases h with hab | hba | hapart
  · exact .inl hab
  · exact .inr hba
  · -- Both hold the third rectangle, so they overlap.
    have hover : a.overlaps b = true := by
      obtain ⟨hrows, hcols⟩ := hc
      rw [strictlyContains_iff] at hac hbc
      rw [overlaps_iff]
      omega
    rw [hapart] at hover
    exact absurd hover Bool.false_ne_true

end Bounds

/-! ## Boxes with the boxes around them -/

namespace BoxTree

mutual

/-- The boxes of a tree, each with the boxes around it from the innermost to the outermost, given
those around the tree. -/
def withAncestors (around : List Box) : BoxTree → List (Box × List Box)
  | ⟨box, children⟩ => (box, around) :: withAncestorsOfAll (box :: around) children

/-- The boxes of several trees, each with the boxes around it. -/
def withAncestorsOfAll (around : List Box) : List BoxTree → List (Box × List Box)
  | [] => []
  | t :: rest => withAncestors around t ++ withAncestorsOfAll around rest

end

/-- The boxes of several trees are those of each in turn, with the boxes around them. -/
theorem withAncestorsOfAll_eq_flatMap (around : List Box) (ts : List BoxTree) :
    withAncestorsOfAll around ts = ts.flatMap (withAncestors around) := by
  induction ts with
  | nil => rfl
  | cons t ts ih => rw [withAncestorsOfAll, ih, List.flatMap_cons]

/-- Without those around them, these are the boxes of a tree. -/
theorem map_fst_withAncestors (t : BoxTree) (around : List Box) :
    (t.withAncestors around).map Prod.fst = t.boxes := by
  induction t generalizing around with
  | mk box children ih =>
    rw [withAncestors, withAncestorsOfAll_eq_flatMap, boxes_eq, List.map_cons, List.map_flatMap]
    exact congrArg _ (List.flatMap_congr fun c hc => ih c hc _)

/-- Without those around them, these are the boxes of several trees. -/
theorem map_fst_withAncestorsOfAll (around : List Box) (ts : List BoxTree) :
    (withAncestorsOfAll around ts).map Prod.fst = boxesOfAll ts := by
  rw [withAncestorsOfAll_eq_flatMap, boxesOfAll_eq_flatMap, List.map_flatMap]
  exact List.flatMap_congr fun t _ => map_fst_withAncestors t around

end BoxTree

namespace Nesting

variable {boxes : List Box} {xs : List Nested} {n : Nested} {t u : BoxTree} {b : Bounds}
  {parent : Box}

/-- The boxes of a list that strictly contain a rectangle. -/
def containers (boxes : List Box) (b : Bounds) : List Box :=
  boxes.filter fun a => a.bounds.strictlyContains b

/-- The containers of a rectangle are the boxes that strictly contain it. -/
theorem mem_containers {a : Box} :
    a ∈ containers boxes b ↔ a ∈ boxes ∧ a.bounds.strictlyContains b = true := by
  rw [containers, List.mem_filter]

/-! ## The smallest container -/

/-- The box is the smallest one of a list that strictly contains a rectangle. -/
structure IsParent (boxes : List Box) (parent : Box) (b : Bounds) : Prop where
  /-- It strictly contains the rectangle. -/
  mem : parent ∈ containers boxes b
  /-- No other container is smaller. -/
  least : ∀ a ∈ containers boxes b, parent.bounds.area ≤ a.bounds.area

/-- A rectangle has no parent when no box contains it. -/
theorem parentOf_eq_none_iff : parentOf boxes b = none ↔ containers boxes b = [] := by
  rw [parentOf, Option.map_eq_none_iff, chooses_smaller.foldl_eq_none_iff,
    List.filter_eq_nil_iff, containers, List.filter_eq_nil_iff]
  simp only [Prod.forall, List.mk_mem_zipIdx_iff_getElem?]
  constructor
  · intro h a ha
    obtain ⟨i, hi⟩ := List.mem_iff_getElem?.1 ha
    exact h a i hi
  · intro h a i hi
    exact h a (List.mem_of_getElem? hi)

/-- The parent of a rectangle is the smallest box that contains it. -/
theorem isParent_of_parentOf {p : Nat} (h : parentOf boxes b = some p) {box : Box}
    (hbox : boxes[p]? = some box) : IsParent boxes box b := by
  obtain ⟨box', hbox', hcontains⟩ := parentOf_spec h
  rw [hbox, Option.some.injEq] at hbox'
  rw [← hbox'] at hcontains
  refine ⟨mem_containers.2 ⟨List.mem_of_getElem? hbox, hcontains⟩, fun a ha => ?_⟩
  obtain ⟨⟨found, index⟩, hfound, rfl⟩ := Option.map_eq_some_iff.1 h
  obtain ⟨hmem, hleast⟩ := chooses_smaller.of_foldl_eq_some hfound
  have hfoundBox : found = box := by
    have hindex := List.mk_mem_zipIdx_iff_getElem?.1 (List.mem_filter.1 hmem).1
    rw [hbox, Option.some.injEq] at hindex
    exact hindex.symm
  obtain ⟨hmem, hcontains⟩ := mem_containers.1 ha
  obtain ⟨i, hi⟩ := List.mem_iff_getElem?.1 hmem
  have hle := hleast (a, i)
    (List.mem_filter.2 ⟨List.mk_mem_zipIdx_iff_getElem?.2 hi, hcontains⟩)
  rw [← hfoundBox]
  exact hle

/-! ## Chains of containers -/

/-- The boxes of a list are laminar. -/
def PairwiseLaminar (boxes : List Box) : Prop :=
  boxes.Pairwise fun a b => a.bounds.Laminar b.bounds

/-- Any two different boxes of a laminar list are laminar. -/
theorem PairwiseLaminar.laminar (h : PairwiseLaminar boxes) {a c : Box} (ha : a ∈ boxes)
    (hc : c ∈ boxes) (hne : a ≠ c) : a.bounds.Laminar c.bounds := by
  have : Std.Symm fun a c : Box => a.bounds.Laminar c.bounds := ⟨fun _ _ => Bounds.Laminar.symm⟩
  exact List.Pairwise.forall h ha hc hne

/-- No container is listed twice, since of two containers one contains the other. -/
theorem PairwiseLaminar.nodup_containers (h : PairwiseLaminar boxes) (hb : b.Valid) :
    (containers boxes b).Nodup := by
  refine (h.filter _).imp_of_mem fun {a c} ha hc hlaminar heq => ?_
  have hnested := hlaminar.nested hb (List.mem_filter.1 ha).2 (List.mem_filter.1 hc).2
  rw [heq, Bounds.strictlyContains_irrefl] at hnested
  simp at hnested

/-- The containers of a rectangle are its parent and the containers of its parent. -/
theorem mem_containers_iff (h : PairwiseLaminar boxes)
    (hvalid : ∀ box ∈ boxes, box.bounds.Valid) (hb : b.Valid) (hparent : IsParent boxes parent b)
    {a : Box} : a ∈ containers boxes b ↔ a = parent ∨ a ∈ containers boxes parent.bounds := by
  obtain ⟨hmem, hcontains⟩ := mem_containers.1 hparent.mem
  constructor
  · intro ha
    obtain ⟨hamem, hacontains⟩ := mem_containers.1 ha
    by_cases heq : a = parent
    · exact .inl heq
    · rcases (h.laminar hamem hmem heq).nested hb hacontains hcontains with hout | hin
      · exact .inr (mem_containers.2 ⟨hamem, hout⟩)
      · -- A container inside the parent would be smaller than it.
        have hlt := Bounds.area_lt_of_strictlyContains (hvalid a hamem) hin
        exact absurd (hparent.least a ha) (not_le.2 hlt)
  · rintro (rfl | ha)
    · exact hparent.mem
    · obtain ⟨hamem, hacontains⟩ := mem_containers.1 ha
      exact mem_containers.2 ⟨hamem, Bounds.strictlyContains_trans hacontains hcontains⟩

/-- Two boxes of a laminar list with the same containers do not overlap, as neither contains the
other. -/
theorem PairwiseLaminar.apart (h : PairwiseLaminar boxes) {a c : Box} (ha : a ∈ boxes)
    (hc : c ∈ boxes) (hne : a ≠ c)
    (hsame : ∀ x, x ∈ containers boxes a.bounds ↔ x ∈ containers boxes c.bounds) :
    a.bounds.overlaps c.bounds = false := by
  have hirrefl : ∀ {x : Box}, x ∉ containers boxes x.bounds := by
    intro x hx
    rw [mem_containers, Bounds.strictlyContains_irrefl] at hx
    exact Bool.false_ne_true hx.2
  rcases h.laminar ha hc hne with hac | hca | hapart
  · exact absurd ((hsame a).2 (mem_containers.2 ⟨ha, hac⟩)) hirrefl
  · exact absurd ((hsame c).1 (mem_containers.2 ⟨hc, hca⟩)) hirrefl
  · exact hapart

/-- The boxes around a box in a forest are those that strictly contain it, each once, and the
smaller one of any two is further inside. -/
structure Surrounded (boxes : List Box) (p : Box × List Box) : Prop where
  /-- They are the containers of the box. -/
  perm : p.2.Perm (containers boxes p.1.bounds)
  /-- They grow from the innermost to the outermost. -/
  growing : p.2.Pairwise fun a c => a.bounds.area < c.bounds.area

/-- Inside a box with the right boxes around it, a box whose parent it is has the right boxes around
it as well. -/
theorem Surrounded.child (h : PairwiseLaminar boxes) (hvalid : ∀ box ∈ boxes, box.bounds.Valid)
    {around : List Box} (hsurrounded : Surrounded boxes (parent, around)) {box : Box}
    (hbox : box ∈ boxes) (hparent : IsParent boxes parent box.bounds) :
    Surrounded boxes (box, parent :: around) := by
  have hmem := (mem_containers.1 hparent.mem).1
  have hlarger : ∀ a ∈ around, parent.bounds.area < a.bounds.area := by
    intro a ha
    have hcontains := (mem_containers.1 (hsurrounded.perm.mem_iff.1 ha)).2
    exact Bounds.area_lt_of_strictlyContains (hvalid parent hmem) hcontains
  refine ⟨?_, List.pairwise_cons.2 ⟨hlarger, hsurrounded.growing⟩⟩
  have hnodup : (parent :: around).Nodup := by
    refine List.nodup_cons.2 ⟨fun hin => lt_irrefl _ (hlarger parent hin), ?_⟩
    exact hsurrounded.perm.nodup_iff.2 (h.nodup_containers (hvalid parent hmem))
  refine (List.perm_ext_iff_of_nodup hnodup (h.nodup_containers (hvalid box hbox))).2 fun a => ?_
  rw [mem_containers_iff h hvalid (hvalid box hbox) hparent, List.mem_cons]
  exact or_congr_right hsurrounded.perm.mem_iff

/-! ## Grown trees -/

/-- What a tree is that was grown for an entry: it has the box of the entry at its root, and
directly inside there are trees grown for entries whose parent the entry is, in reading order. -/
structure Grown (xs : List Nested) (n : Nested) (t : BoxTree) : Prop where
  /-- The entry is one of those that trees are grown for. -/
  mem : n ∈ xs
  /-- The box is that of the entry. -/
  box : t.box = n.box
  /-- The trees inside come in reading order. -/
  sorted : t.children.Pairwise fun a c => a.before c = true
  /-- The trees inside are grown for its children. -/
  children : ∀ c ∈ t.children, ∃ m, (m, c) ∈ grow xs ∧ m.parent = some n.index

/-- All trees are grown this way. -/
theorem grown_of_mem_grow (h : (n, t) ∈ grow xs) : Grown xs n t := by
  induction xs with
  | nil => simp [grow] at h
  | cons x xs ih =>
    rw [grow] at h
    rcases List.mem_cons.1 h with heq | h
    · obtain ⟨rfl, rfl⟩ := Prod.mk.inj heq
      refine ⟨List.mem_cons_self, rfl, ?_, fun c hc => ?_⟩
      · exact Bounds.pairwise_sortBy_before (fun t : BoxTree => t.box.bounds) _
      · obtain ⟨⟨m, c'⟩, hm, rfl⟩ := List.mem_map.1 (mem_sortBy.1 hc)
        obtain ⟨hm, hparent⟩ := List.mem_filter.1 hm
        exact ⟨m, by rw [grow]; exact List.mem_cons_of_mem _ hm, of_decide_eq_true hparent⟩
    · obtain ⟨hmem, hbox, hsorted, hchildren⟩ := ih h
      refine ⟨List.mem_cons_of_mem _ hmem, hbox, hsorted, fun c hc => ?_⟩
      obtain ⟨m, hm, hparent⟩ := hchildren c hc
      exact ⟨m, by rw [grow]; exact List.mem_cons_of_mem _ hm, hparent⟩

/-- A tree that is grown has the trees grown for the children of its box inside, in reading order.
-/
theorem tree_of_mem_grow (h : Ranked xs) (ht : (n, t) ∈ grow xs) :
    t = ⟨n.box, sortBy BoxTree.before
      (((grow xs).filter fun u => decide (u.1.parent = some n.index)).map Prod.snd)⟩ := by
  induction xs with
  | nil => simp [grow] at ht
  | cons x xs ih =>
    rw [grow] at ht ⊢
    rcases List.mem_cons.1 ht with heq | ht
    · obtain ⟨rfl, rfl⟩ := Prod.mk.inj heq
      rw [List.filter_cons_of_neg (by simpa using h.parent_ne n List.mem_cons_self)]
    · -- The entry in front is not a child of one behind it.
      have hfront := (List.pairwise_cons.1 h.parent_before).1 n (grown_of_mem_grow ht).mem
      rw [List.filter_cons_of_neg (by simpa using hfront)]
      exact ih h.tail ht

/-- The trees inside a grown tree are grown too. -/
theorem exists_mem_grow_of_mem_subtrees (h : (n, t) ∈ grow xs) (hu : u ∈ t.subtrees) :
    ∃ m, (m, u) ∈ grow xs := by
  induction t generalizing n with
  | mk box children ih =>
    rw [BoxTree.subtrees_eq] at hu
    rcases List.mem_cons.1 hu with rfl | hu
    · exact ⟨n, h⟩
    · obtain ⟨c, hc, hu⟩ := List.mem_flatMap.1 hu
      obtain ⟨m, hm, -⟩ := (grown_of_mem_grow h).children c hc
      exact ih c hc hm hu

/-- The box at the root of a grown tree is the parent of the boxes directly inside. -/
theorem isParent_of_mem_grow (h : (n, t) ∈ grow (sortBy Nested.largerFirst (ofBoxes boxes)))
    {c : BoxTree} (hc : c ∈ t.children) : IsParent boxes t.box c.box.bounds := by
  have hgrown := grown_of_mem_grow h
  obtain ⟨m, hm, hparent⟩ := hgrown.children c hc
  have hchild := grown_of_mem_grow hm
  have hentry := mem_ofBoxes_iff.1 (mem_sortBy.1 hchild.mem)
  rw [hentry.2] at hparent
  have hbox := (mem_ofBoxes_iff.1 (mem_sortBy.1 hgrown.mem)).1
  rw [hgrown.box, hchild.box]
  exact isParent_of_parentOf hparent hbox

/-- The trees of a list of boxes are grown for its entries without a parent. -/
theorem exists_mem_grow_of_mem_trees (h : t ∈ trees (ofBoxes boxes)) :
    ∃ n, (n, t) ∈ grow (sortBy Nested.largerFirst (ofBoxes boxes)) ∧ n.parent = none := by
  have hmem := (trees_perm (nodup_index_ofBoxes boxes)).mem_iff.1 h
  obtain ⟨⟨n, t'⟩, hn, rfl⟩ := List.mem_map.1 hmem
  obtain ⟨hn, hnone⟩ := List.mem_filter.1 hn
  exact ⟨n, hn, Option.isNone_iff_eq_none.1 hnone⟩

/-- No box contains one at the root of a tree. -/
theorem containers_root (h : t ∈ trees (ofBoxes boxes)) : containers boxes t.box.bounds = [] := by
  obtain ⟨n, hn, hnone⟩ := exists_mem_grow_of_mem_trees h
  have hgrown := grown_of_mem_grow hn
  rw [(mem_ofBoxes_iff.1 (mem_sortBy.1 hgrown.mem)).2, ← hgrown.box] at hnone
  exact parentOf_eq_none_iff.1 hnone

/-- The box at the root of a grown tree is one of those that trees are grown for. -/
theorem box_mem_of_mem_grow (h : (n, t) ∈ grow (sortBy Nested.largerFirst (ofBoxes boxes))) :
    t.box ∈ boxes := by
  have hgrown := grown_of_mem_grow h
  rw [hgrown.box]
  exact List.mem_of_getElem? (mem_ofBoxes_iff.1 (mem_sortBy.1 hgrown.mem)).1

/-! ## The forest -/

/-- All boxes of a grown tree have the right boxes around them, if the one at its root does. -/
theorem surrounded_withAncestors (hlaminar : PairwiseLaminar boxes)
    (hvalid : ∀ box ∈ boxes, box.bounds.Valid) {around : List Box}
    (h : (n, t) ∈ grow (sortBy Nested.largerFirst (ofBoxes boxes)))
    (hroot : Surrounded boxes (t.box, around)) :
    ∀ p ∈ t.withAncestors around, Surrounded boxes p := by
  induction t generalizing n around with
  | mk box children ih =>
    intro p hp
    rw [BoxTree.withAncestors, BoxTree.withAncestorsOfAll_eq_flatMap] at hp
    rcases List.mem_cons.1 hp with rfl | hp
    · exact hroot
    · obtain ⟨c, hc, hp⟩ := List.mem_flatMap.1 hp
      obtain ⟨m, hm, -⟩ := (grown_of_mem_grow h).children c hc
      have hchild := hroot.child hlaminar hvalid (box_mem_of_mem_grow hm)
        (isParent_of_mem_grow h hc)
      exact ih c hc hm hchild p hp

/-- The subtrees of a forest are grown trees. -/
theorem exists_mem_grow_of_mem_subtreesOfAll
    (hu : u ∈ BoxTree.subtreesOfAll (trees (ofBoxes boxes))) :
    ∃ m, (m, u) ∈ grow (sortBy Nested.largerFirst (ofBoxes boxes)) := by
  rw [BoxTree.subtreesOfAll_eq_flatMap] at hu
  obtain ⟨t, ht, hu⟩ := List.mem_flatMap.1 hu
  obtain ⟨n, hn, -⟩ := exists_mem_grow_of_mem_trees ht
  exact exists_mem_grow_of_mem_subtrees hn hu

/-- Two boxes directly inside the same box do not overlap. -/
theorem apart_children (hlaminar : PairwiseLaminar boxes)
    (hvalid : ∀ box ∈ boxes, box.bounds.Valid)
    (hu : u ∈ BoxTree.subtreesOfAll (trees (ofBoxes boxes))) {c d : BoxTree}
    (hc : c ∈ u.children) (hd : d ∈ u.children) (hne : c.box ≠ d.box) :
    c.box.bounds.overlaps d.box.bounds = false := by
  obtain ⟨m, hm⟩ := exists_mem_grow_of_mem_subtreesOfAll hu
  have hmem : ∀ e ∈ u.children, e.box ∈ boxes := by
    intro e he
    obtain ⟨k, hk, -⟩ := (grown_of_mem_grow hm).children e he
    exact box_mem_of_mem_grow hk
  -- Both have the box around them and its containers for containers.
  have hcontainers : ∀ e ∈ u.children, ∀ x, x ∈ containers boxes e.box.bounds ↔
      x = u.box ∨ x ∈ containers boxes u.box.bounds := fun e he x =>
    mem_containers_iff hlaminar hvalid (hvalid e.box (hmem e he)) (isParent_of_mem_grow hm he)
  refine hlaminar.apart (hmem c hc) (hmem d hd) hne fun x => ?_
  rw [hcontainers c hc, hcontainers d hd]

/-- Two boxes at roots do not overlap. -/
theorem apart_roots (hlaminar : PairwiseLaminar boxes) (ht : t ∈ trees (ofBoxes boxes))
    (hu : u ∈ trees (ofBoxes boxes)) (hne : t.box ≠ u.box) :
    t.box.bounds.overlaps u.box.bounds = false := by
  have hmem : ∀ {v : BoxTree}, v ∈ trees (ofBoxes boxes) → v.box ∈ boxes := by
    intro v hv
    obtain ⟨n, hn, -⟩ := exists_mem_grow_of_mem_trees hv
    exact box_mem_of_mem_grow hn
  refine hlaminar.apart (hmem ht) (hmem hu) hne fun x => ?_
  rw [containers_root ht, containers_root hu]

/-- The roots come in reading order. -/
theorem pairwise_trees (boxes : List Box) :
    (trees (ofBoxes boxes)).Pairwise fun a c => a.before c = true := by
  have hroots : (roots (ofBoxes boxes)).Pairwise fun a c => a.before c = true :=
    Bounds.pairwise_sortBy_before (fun n : Nested => n.box.bounds) _
  -- The tree of a root has the box of the root, as no two entries have the same place.
  have hbox : ∀ {root : Nested} {t : BoxTree}, root ∈ roots (ofBoxes boxes) →
      ((grow (sortBy Nested.largerFirst (ofBoxes boxes))).find? fun u =>
        decide (u.1.index = root.index)).map Prod.snd = some t → t.box = root.box := by
    intro root t hroot hfind
    obtain ⟨⟨m, t'⟩, hfound, rfl⟩ := Option.map_eq_some_iff.1 hfind
    have hindex : m.index = root.index := of_decide_eq_true (List.find?_some hfound :)
    have hgrown := grown_of_mem_grow (List.mem_of_find?_eq_some hfound)
    have hm := (mem_ofBoxes_iff.1 (mem_sortBy.1 hgrown.mem)).1
    have hr := (mem_ofBoxes_iff.1 (List.mem_filter.1 (mem_sortBy.1 hroot)).1).1
    rw [hindex, hr, Option.some.injEq] at hm
    rw [hgrown.box, hm]
  refine List.pairwise_filterMap.2 (hroots.imp_of_mem fun {a c} ha hc hac t ht u hu => ?_)
  show t.box.bounds.before u.box.bounds = true
  rw [hbox ha ht, hbox hc hu]
  exact hac

/-- The trees are the forest of a list of boxes: the order of strict containment. -/
structure IsForest (boxes : List Box) (trees : List BoxTree) : Prop where
  /-- The boxes of the trees are those of the list, each once. -/
  perm : (BoxTree.boxesOfAll trees).Perm boxes
  /-- The boxes around a box are those that strictly contain it, each once. -/
  ancestors : ∀ p ∈ BoxTree.withAncestorsOfAll [] trees, p.2.Perm (containers boxes p.1.bounds)
  /-- A box around a box is smaller than those further outside, so the parent is the smallest. -/
  growing : ∀ p ∈ BoxTree.withAncestorsOfAll [] trees,
    p.2.Pairwise fun a c => a.bounds.area < c.bounds.area
  /-- The trees come in reading order. -/
  roots : trees.Pairwise fun a c => a.before c = true
  /-- What is directly inside a box comes in reading order. -/
  children : ∀ t ∈ BoxTree.subtreesOfAll trees, t.children.Pairwise fun a c => a.before c = true

/-- If no box is listed twice, the subtrees of a forest have different boxes. -/
theorem IsForest.nodup {ts : List BoxTree} (h : IsForest boxes ts) (hnodup : boxes.Nodup) :
    ((BoxTree.subtreesOfAll ts).map (·.box)).Nodup := by
  rw [BoxTree.map_box_subtreesOfAll]
  exact h.perm.nodup_iff.2 hnodup

/-- What is directly inside a box of a forest has different boxes. -/
theorem IsForest.nodup_children {ts : List BoxTree} (h : IsForest boxes ts)
    (hnodup : boxes.Nodup) (ht : t ∈ BoxTree.subtreesOfAll ts) : (t.children.map (·.box)).Nodup := by
  have hsublist := (BoxTree.children_sublist_subtrees t).trans
    (BoxTree.subtrees_sublist_subtreesOfAll ht)
  exact (hsublist.map _).nodup (h.nodup hnodup)

/-- The trees of laminar boxes are their forest. -/
theorem isForest_trees (hlaminar : PairwiseLaminar boxes)
    (hvalid : ∀ box ∈ boxes, box.bounds.Valid) : IsForest boxes (trees (ofBoxes boxes)) := by
  have hsurrounded : ∀ p ∈ BoxTree.withAncestorsOfAll [] (trees (ofBoxes boxes)),
      Surrounded boxes p := by
    intro p hp
    rw [BoxTree.withAncestorsOfAll_eq_flatMap] at hp
    obtain ⟨t, ht, hp⟩ := List.mem_flatMap.1 hp
    obtain ⟨n, hn, -⟩ := exists_mem_grow_of_mem_trees ht
    have hroot : Surrounded boxes (t.box, []) := by
      refine ⟨?_, .nil⟩
      show List.Perm [] (containers boxes t.box.bounds)
      rw [containers_root ht]
    exact surrounded_withAncestors hlaminar hvalid hn hroot p hp
  refine ⟨boxes_trees_perm hvalid, fun p hp => (hsurrounded p hp).perm,
    fun p hp => (hsurrounded p hp).growing, pairwise_trees boxes, fun u hu => ?_⟩
  obtain ⟨m, hm⟩ := exists_mem_grow_of_mem_subtreesOfAll hu
  exact (grown_of_mem_grow hm).sorted

end Nesting

namespace Hierarchy

/-- For boxes of any rectangles in any order, if no conflict is found, the trees are the forest of
the boxes, in which the boxes around a box are exactly those that strictly contain it. If two boxes
overlap and neither strictly contains the other, a conflict is found and there are no trees. -/
theorem forest_ofBoxes (maxDepth : Nat) (boxes : List Box)
    (hvalid : ∀ box ∈ boxes, box.bounds.Valid) :
    ((ofBoxes maxDepth boxes).errors = [] →
        Nesting.IsForest boxes (ofBoxes maxDepth boxes).trees) ∧
      ((∃ (i j : Nat) (a b : Box), i < j ∧ boxes[i]? = some a ∧ boxes[j]? = some b ∧
          a.bounds.overlaps b.bounds = true ∧ a.bounds.strictlyContains b.bounds = false ∧
          b.bounds.strictlyContains a.bounds = false) →
        (ofBoxes maxDepth boxes).errors ≠ [] ∧ (ofBoxes maxDepth boxes).trees = []) := by
  have herrors : (ofBoxes maxDepth boxes).errors = [] ↔ Nesting.PairwiseLaminar boxes := by
    show Nesting.overlaps (boxes.map (·.bounds)) = [] ↔ _
    rw [Nesting.overlaps_eq_nil_iff, List.pairwise_map]
    rfl
  constructor
  · intro hnone
    have htrees : (ofBoxes maxDepth boxes).trees = Nesting.trees (Nesting.ofBoxes boxes) :=
      if_pos hnone
    rw [htrees]
    exact Nesting.isForest_trees (herrors.1 hnone) hvalid
  · rintro ⟨i, j, a, b, hij, hi, hj, hover, hab, hba⟩
    have hsome : (ofBoxes maxDepth boxes).errors ≠ [] := by
      rw [ne_eq, herrors]
      intro hlaminar
      obtain ⟨hi', rfl⟩ := List.getElem?_eq_some_iff.1 hi
      obtain ⟨hj', rfl⟩ := List.getElem?_eq_some_iff.1 hj
      have := List.pairwise_iff_getElem.1 hlaminar i j hi' hj' hij
      simp [Bounds.Laminar, hover, hab, hba] at this
    exact ⟨hsome, if_neg hsome⟩

/-- Four boxes inside one another and one beside them, two of the five as flat as a line. -/
def linesAndFrames : List Box :=
  [⟨⟨2, 2, 4, 5⟩, none⟩, ⟨⟨3, 3, 3, 4⟩, none⟩, ⟨⟨0, 0, 9, 9⟩, some "all"⟩, ⟨⟨1, 1, 8, 7⟩, none⟩,
    ⟨⟨0, 9, 5, 9⟩, none⟩]

/-- Two boxes across each other. -/
def crossing : List Box := [⟨⟨0, 0, 4, 4⟩, none⟩, ⟨⟨2, 2, 6, 6⟩, none⟩]

/-- The five boxes make a forest of two trees; two boxes across each other make none. -/
theorem forest_ofBoxes_lines_and_crossing :
    (Nesting.IsForest linesAndFrames (ofBoxes 4 linesAndFrames).trees ∧
      BoxTree.withAncestorsOfAll [] (ofBoxes 4 linesAndFrames).trees =
        [(⟨⟨0, 0, 9, 9⟩, some "all"⟩, []),
          (⟨⟨1, 1, 8, 7⟩, none⟩, [⟨⟨0, 0, 9, 9⟩, some "all"⟩]),
          (⟨⟨2, 2, 4, 5⟩, none⟩, [⟨⟨1, 1, 8, 7⟩, none⟩, ⟨⟨0, 0, 9, 9⟩, some "all"⟩]),
          (⟨⟨3, 3, 3, 4⟩, none⟩,
            [⟨⟨2, 2, 4, 5⟩, none⟩, ⟨⟨1, 1, 8, 7⟩, none⟩, ⟨⟨0, 0, 9, 9⟩, some "all"⟩]),
          (⟨⟨0, 9, 5, 9⟩, none⟩, [])]) ∧
      (ofBoxes 4 crossing).errors ≠ [] ∧ (ofBoxes 4 crossing).trees = [] := by
  refine ⟨⟨?_, by decide +kernel⟩, ?_⟩
  · exact (forest_ofBoxes 4 linesAndFrames (by decide +kernel)).1 (by decide +kernel)
  · exact (forest_ofBoxes 4 crossing (by decide +kernel)).2
      ⟨0, 1, _, _, by decide, rfl, rfl, by decide, by decide, by decide⟩

end Hierarchy

end Wireframe
