import Mathlib.Data.List.Basic
import Mathlib.Data.List.Flatten
import Wireframe.Box
import Wireframe.Content

/-!
# Induction over trees of boxes

A tree of boxes holds a list of trees, so that what recurses over it comes in pairs: one function
for a tree and one for several. `inductionOn` is the one induction that statements about either
need, with the second function written as a map or a concatenation of the first.
-/

namespace Wireframe

namespace BoxTree

mutual

/-- What holds of a box whenever it holds of the boxes directly inside it holds of every tree. -/
@[elab_as_elim, induction_eliminator]
theorem inductionOn {motive : BoxTree → Prop}
    (mk : ∀ box children, (∀ c ∈ children, motive c) → motive ⟨box, children⟩) :
    ∀ t, motive t
  | ⟨box, children⟩ => mk box children (inductionOnAll mk children)

/-- What holds of a box whenever it holds of the boxes directly inside it holds of all trees of a
list. -/
theorem inductionOnAll {motive : BoxTree → Prop}
    (mk : ∀ box children, (∀ c ∈ children, motive c) → motive ⟨box, children⟩) :
    ∀ ts : List BoxTree, ∀ t ∈ ts, motive t
  | [], t, ht => by simp at ht
  | u :: rest, t, ht => by
    rcases List.mem_cons.1 ht with heq | ht
    · rw [heq]
      exact inductionOn mk u
    · exact inductionOnAll mk rest t ht

end

/-- The boxes of several trees are those of each in turn. -/
theorem boxesOfAll_eq_flatMap (ts : List BoxTree) : boxesOfAll ts = ts.flatMap boxes := by
  induction ts with
  | nil => rfl
  | cons t ts ih => rw [boxesOfAll, ih, List.flatMap_cons]

/-- The boxes of a tree are the one at its root and those of the trees inside it. -/
theorem boxes_eq (t : BoxTree) : t.boxes = t.box :: t.children.flatMap boxes := by
  obtain ⟨box, children⟩ := t
  rw [boxes, boxesOfAll_eq_flatMap]

/-! ## Subtrees -/

mutual

/-- A tree and all trees inside it, each before those inside it. -/
def subtrees : BoxTree → List BoxTree
  | ⟨box, children⟩ => ⟨box, children⟩ :: subtreesOfAll children

/-- Several trees and all trees inside them. -/
def subtreesOfAll : List BoxTree → List BoxTree
  | [] => []
  | t :: rest => subtrees t ++ subtreesOfAll rest

end

/-- The subtrees of several trees are those of each in turn. -/
theorem subtreesOfAll_eq_flatMap (ts : List BoxTree) : subtreesOfAll ts = ts.flatMap subtrees := by
  induction ts with
  | nil => rfl
  | cons t ts ih => rw [subtreesOfAll, ih, List.flatMap_cons]

/-- The subtrees of a tree are the tree itself and those of the trees inside it. -/
theorem subtrees_eq (t : BoxTree) : t.subtrees = t :: t.children.flatMap subtrees := by
  obtain ⟨box, children⟩ := t
  rw [subtrees, subtreesOfAll_eq_flatMap]

/-- A tree is one of its subtrees. -/
theorem mem_subtrees_self (t : BoxTree) : t ∈ t.subtrees := by
  rw [subtrees_eq]
  exact List.mem_cons_self

/-- The trees directly inside a tree come among its subtrees, in their order. -/
theorem children_sublist_subtrees (t : BoxTree) : t.children.Sublist t.subtrees := by
  have hself : ∀ c ∈ t.children, [c].Sublist c.subtrees := fun c _ =>
    List.singleton_sublist.2 (mem_subtrees_self c)
  have hall := List.Sublist.flatMap_right t.children hself
  rw [List.flatMap_singleton'] at hall
  rw [subtrees_eq]
  exact hall.cons t

/-- The subtrees of one of several trees come among those of all of them, in their order. -/
theorem sublist_flatMap_subtrees {ts : List BoxTree} {t : BoxTree} (ht : t ∈ ts) :
    t.subtrees.Sublist (ts.flatMap subtrees) := by
  rw [List.flatMap_def]
  exact List.sublist_flatten_of_mem (List.mem_map_of_mem ht)

/-- The subtrees of a subtree come among those of the tree, in their order. -/
theorem subtrees_sublist {t u : BoxTree} (hu : u ∈ t.subtrees) :
    u.subtrees.Sublist t.subtrees := by
  induction t with
  | mk box children ih =>
    rw [subtrees_eq] at hu
    rcases List.mem_cons.1 hu with rfl | hu
    · exact .refl _
    · obtain ⟨c, hc, hu⟩ := List.mem_flatMap.1 hu
      rw [subtrees_eq ⟨box, children⟩]
      exact ((ih c hc hu).trans (sublist_flatMap_subtrees hc)).cons _

/-- The subtrees of a subtree of several trees come among the subtrees of these, in their order. -/
theorem subtrees_sublist_subtreesOfAll {ts : List BoxTree} {u : BoxTree}
    (hu : u ∈ subtreesOfAll ts) : u.subtrees.Sublist (subtreesOfAll ts) := by
  rw [subtreesOfAll_eq_flatMap] at hu ⊢
  obtain ⟨t, ht, hu⟩ := List.mem_flatMap.1 hu
  exact (subtrees_sublist hu).trans (sublist_flatMap_subtrees ht)

/-- A tree directly inside a subtree of several trees is a subtree of them. -/
theorem child_mem_subtreesOfAll {ts : List BoxTree} {u c : BoxTree} (hu : u ∈ subtreesOfAll ts)
    (hc : c ∈ u.children) : c ∈ subtreesOfAll ts := by
  refine (subtrees_sublist_subtreesOfAll hu).subset ?_
  rw [subtrees_eq]
  exact List.mem_cons_of_mem _ (List.mem_flatMap.2 ⟨c, hc, mem_subtrees_self c⟩)

/-- Each of several trees is a subtree of them. -/
theorem mem_subtreesOfAll_of_mem {ts : List BoxTree} {t : BoxTree} (ht : t ∈ ts) :
    t ∈ subtreesOfAll ts := by
  rw [subtreesOfAll_eq_flatMap]
  exact List.mem_flatMap.2 ⟨t, ht, mem_subtrees_self t⟩

/-- The boxes of a tree are those at the roots of its subtrees. -/
theorem map_box_subtrees (t : BoxTree) : t.subtrees.map box = t.boxes := by
  induction t with
  | mk box children ih =>
    rw [subtrees_eq, boxes_eq, List.map_cons, List.map_flatMap]
    exact congrArg _ (List.flatMap_congr ih)

/-- The boxes of several trees are those at the roots of their subtrees. -/
theorem map_box_subtreesOfAll (ts : List BoxTree) :
    (subtreesOfAll ts).map box = boxesOfAll ts := by
  rw [subtreesOfAll_eq_flatMap, boxesOfAll_eq_flatMap, List.map_flatMap]
  exact List.flatMap_congr fun t _ => map_box_subtrees t

end BoxTree

/-- What the boxes inside a box were read as, with their rectangles. -/
theorem Reader.boxes_eq_map (r : Reader) (ts : List BoxTree) :
    r.boxes ts = ts.map fun t => ⟨t.box.bounds, r.box t⟩ := by
  induction ts with
  | nil => rfl
  | cons t ts ih => rw [boxes, ih, List.map_cons]

end Wireframe
