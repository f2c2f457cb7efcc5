import Wireframe.Nesting
import Wireframe.Proofs.Detection

/-!
# Boxes of one drawing do not conflict

A hierarchy is made without errors exactly when its boxes are pairwise laminar. Those that are found
in a grid are, so a hierarchy made of them has no errors.
-/

namespace Wireframe

/-- Two rectangles conflict exactly when they are not laminar. -/
theorem Nesting.conflict_eq_false_iff {a b : Bounds} :
    conflict a b = false ↔ a.Laminar b := by
  unfold conflict Bounds.Laminar
  cases a.strictlyContains b <;> cases b.strictlyContains a <;> cases a.overlaps b <;> simp

/-- Rectangles have no overlaps to report exactly when they are pairwise laminar. -/
theorem Nesting.overlaps_eq_nil_iff {bs : List Bounds} :
    overlaps bs = [] ↔ bs.Pairwise Bounds.Laminar := by
  induction bs with
  | nil => simp [overlaps]
  | cons a bs ih =>
    rw [overlaps, List.append_eq_nil_iff, List.map_eq_nil_iff, List.filter_eq_nil_iff, ih,
      List.pairwise_cons]
    simp only [Bool.not_eq_true, conflict_eq_false_iff]

namespace Hierarchy

variable {maxDepth : Nat} {boxes : List Box}

/-- Boxes are nested without errors exactly when they are pairwise laminar. -/
theorem errors_ofBoxes_eq_nil_iff :
    (ofBoxes maxDepth boxes).errors = [] ↔ boxes.Pairwise fun a b => a.bounds.Laminar b.bounds := by
  show Nesting.overlaps (boxes.map (·.bounds)) = [] ↔ _
  rw [Nesting.overlaps_eq_nil_iff, List.pairwise_map]

/-- Boxes that are nested without errors have all their trees. -/
theorem trees_ofBoxes (hnone : (ofBoxes maxDepth boxes).errors = []) :
    (ofBoxes maxDepth boxes).trees = Nesting.trees (Nesting.ofBoxes boxes) :=
  if_pos hnone

end Hierarchy

namespace Grid

/-- The boxes found are pairwise laminar. -/
theorem pairwise_laminar_detect (g : Grid) (radius : Int) :
    (g.detect radius).boxes.Pairwise fun a b => a.bounds.Laminar b.bounds := by
  refine (pairwise_boxes_detect g radius).imp_of_mem ?_
  intro a b ha hb hab
  rcases (draws_of_mem_detect ha).laminar (draws_of_mem_detect hb) with heq | hlaminar
  · exact absurd (by rw [heq]) hab.ne
  · exact hlaminar

/-- The boxes found nest without errors. -/
theorem errors_ofBoxes_detect (g : Grid) (radius : Int) (maxDepth : Nat) :
    (Hierarchy.ofBoxes maxDepth (g.detect radius).boxes).errors = [] :=
  Hierarchy.errors_ofBoxes_eq_nil_iff.2 (pairwise_laminar_detect g radius)

end Grid

end Wireframe
