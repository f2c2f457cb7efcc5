import Wireframe.Alignment

/-!
# Alignment is symmetric

Content is judged by the free columns on both sides of it, and both sides are judged alike: when the
free space on the two sides is exchanged, content at the right comes to the left, content in the
middle stays there, and content that hugs the left side comes to the right (`ofSpace_swap`). Content
that is left-aligned for want of anything better stays so. Since the free columns are counted from
the borders, content that moves together with its container keeps its alignment.
-/

namespace Wireframe

/-- A number is at no distance from itself. -/
theorem Ratio.distance_self (q : Rat) : distance q q = 0 := by
  have hzero : difference q q = 0 := by
    unfold difference
    rw [Rat.sub_self]
    rfl
  unfold distance
  rw [hzero]
  rfl

/-- A position, moved down and to the right. -/
def Position.moved (p : Position) (rows cols : Int) : Position := ⟨p.row + rows, p.col + cols⟩

/-- A rectangle, moved down and to the right. -/
def Bounds.moved (b : Bounds) (rows cols : Int) : Bounds :=
  ⟨b.top + rows, b.left + cols, b.bottom + rows, b.right + cols⟩

namespace Alignment

/-! ## Free space -/

/-- Content hugs a side that has next to nothing free, of the columns there are, while there is
plenty of room on the other side. -/
def Hugs (close distant width : Int) : Prop :=
  Ratio.quotient close width < hugging ∧ far < Ratio.quotient distant width

/-- Whether content hugs a side is decided by comparing the shares. -/
instance (close distant width : Int) : Decidable (Hugs close distant width) := by
  unfold Hugs
  infer_instance

variable {left right width : Int}

/-- Content hugs one side at most. -/
theorem Hugs.not_swap (h : Hugs left right width) : ¬ Hugs right left width := by
  intro hswap
  -- A side that is far is not next to nothing, since the one limit lies below the other.
  have hlimits : hugging < far := by decide +kernel
  have hloop : hugging < hugging := calc
    hugging < far := hlimits
    _ < Ratio.quotient right width := h.2
    _ < hugging := hswap.1
  exact absurd hloop Rat.lt_irrefl

/-- The alignment by the sides that content hugs. -/
theorem ofSpace_eq (left right width : Int) :
    ofSpace left right width =
      if Hugs left right width then .left
      else if Hugs right left width then .right
      else if Ratio.distance (Ratio.quotient left width) (Ratio.quotient right width) < tolerance
        then .center
      else .left := rfl

/-- Content with the same space on both sides stands in the middle. -/
theorem ofSpace_self (space width : Int) : ofSpace space space width = .center := by
  have hneither : ¬ Hugs space space width := fun h => h.not_swap h
  have hnear : Ratio.distance (Ratio.quotient space width) (Ratio.quotient space width) <
      tolerance := by
    rw [Ratio.distance_self]
    decide +kernel
  rw [ofSpace_eq, if_neg hneither, if_neg hneither, if_pos hnear]

/-- What becomes of an alignment when the free space on both sides is exchanged. Left-aligned content
only moves if it hugs the left side. -/
def mirror (hugsLeft : Bool) : Alignment → Alignment
  | .right => .left
  | .center => .center
  | .left => if hugsLeft then .right else .left

/-- Exchanging the free space mirrors the alignment. -/
theorem ofSpace_swap (left right width : Int) :
    ofSpace right left width =
      (ofSpace left right width).mirror (decide (Hugs left right width)) := by
  rw [ofSpace_eq right left, ofSpace_eq left right,
    Ratio.distance_comm (Ratio.quotient right width)]
  by_cases hleft : Hugs left right width
  · -- Exchanged, the content hugs the right side and so does not hug the left one.
    rw [if_neg hleft.not_swap, if_pos hleft, if_pos hleft, decide_eq_true hleft]
    rfl
  · rw [if_neg hleft, if_neg hleft, decide_eq_false hleft]
    by_cases hright : Hugs right left width
    · rw [if_pos hright, if_pos hright]
      rfl
    · -- No side is hugged, and the distance of the two shares is the same either way.
      rw [if_neg hright, if_neg hright]
      split
      · rfl
      · rfl

/-! ## Places -/

variable {length : Nat} {col : Int} {b : Bounds}

/-- Content of a given length at column `col` lies between the borders of its container. -/
def Between (length : Nat) (col : Int) (b : Bounds) : Prop := b.left < col ∧ col + length ≤ b.right

/-- The column at which content of a given length has the space on its right that it has on its left
at column `col`, and the other way round. -/
def mirrorCol (length : Nat) (col : Int) (b : Bounds) : Int := b.left + b.right + 1 - (col + length)

/-- On the left of the mirrored column there is the space on the right of the column. -/
theorem leftSpace_mirrorCol (length : Nat) (col : Int) (b : Bounds) :
    leftSpace (mirrorCol length col b) b = rightSpace col length b := by
  unfold leftSpace mirrorCol rightSpace
  omega

/-- On the right of the mirrored column there is the space on the left of the column. -/
theorem rightSpace_mirrorCol (length : Nat) (col : Int) (b : Bounds) :
    rightSpace (mirrorCol length col b) length b = leftSpace col b := by
  unfold leftSpace mirrorCol rightSpace
  omega

/-- Content lies between the borders exactly when no space beside it is negative. -/
theorem between_iff :
    Between length col b ↔ 0 ≤ leftSpace col b ∧ 0 ≤ rightSpace col length b := by
  unfold Between leftSpace rightSpace
  omega

/-- Content lies between the borders at the mirrored column if it does at the column. -/
theorem between_mirrorCol_iff : Between length (mirrorCol length col b) b ↔ Between length col b := by
  rw [between_iff, between_iff, leftSpace_mirrorCol, rightSpace_mirrorCol]
  exact and_comm

/-- In a container with room inside, the free space decides. -/
theorem ofContent_of_pos (hwide : 0 < b.right - b.left - 2) (length : Nat) (col : Int) :
    ofContent length col b =
      ofSpace (leftSpace col b) (rightSpace col length b) (b.right - b.left - 2) :=
  if_neg (by omega)

/-- The alignment of content does not depend on where its container stands. -/
theorem ofContent_moved (length : Nat) (col : Int) (b : Bounds) (rows cols : Int) :
    ofContent length (col + cols) (b.moved rows cols) = ofContent length col b := by
  have hleft : leftSpace (col + cols) (b.moved rows cols) = leftSpace col b := by
    unfold leftSpace Bounds.moved
    dsimp only
    omega
  have hright : rightSpace (col + cols) length (b.moved rows cols) = rightSpace col length b := by
    unfold rightSpace Bounds.moved
    dsimp only
    omega
  have hwidth : (b.moved rows cols).right - (b.moved rows cols).left - 2 = b.right - b.left - 2 := by
    unfold Bounds.moved
    dsimp only
    omega
  unfold ofContent
  rw [hleft, hright, hwidth]

end Alignment

namespace AlignmentRule

open Wireframe.Alignment

/-- Content that is aligned by its position, in a container with room inside, stands in the middle
if there is the same space on both sides. Where the space on both sides is exchanged, in this
container or another one of its width, the alignment is mirrored. Content between the borders can be
put to such a place, between the borders again. Content and container may be moved together. -/
theorem align_mirror (content : Line) (p : Position) (b : Bounds)
    (hwide : 0 < b.right - b.left - 2) :
    (leftSpace p.col b = rightSpace p.col content.length b →
      byPosition.align content p b = .center) ∧
    (∀ (other : Line) (q : Position) (c : Bounds), c.right - c.left = b.right - b.left →
      leftSpace q.col c = rightSpace p.col content.length b →
      rightSpace q.col other.length c = leftSpace p.col b →
      byPosition.align other q c = (byPosition.align content p b).mirror
        (decide (Hugs (leftSpace p.col b) (rightSpace p.col content.length b)
          (b.right - b.left - 2)))) ∧
    (leftSpace (mirrorCol content.length p.col b) b = rightSpace p.col content.length b ∧
      rightSpace (mirrorCol content.length p.col b) content.length b = leftSpace p.col b ∧
      (Between content.length (mirrorCol content.length p.col b) b ↔
        Between content.length p.col b)) ∧
    ∀ rows cols : Int,
      byPosition.align content (p.moved rows cols) (b.moved rows cols) =
        byPosition.align content p b := by
  have halign : byPosition.align content p b =
      ofSpace (leftSpace p.col b) (rightSpace p.col content.length b) (b.right - b.left - 2) :=
    ofContent_of_pos hwide content.length p.col
  refine ⟨fun hsame => ?_, fun other q c hwidth hleft hright => ?_,
    ⟨leftSpace_mirrorCol _ _ _, rightSpace_mirrorCol _ _ _, between_mirrorCol_iff⟩,
    fun rows cols => ofContent_moved content.length p.col b rows cols⟩
  · rw [halign, hsame]
    exact ofSpace_self _ _
  · have hwide' : 0 < c.right - c.left - 2 := by omega
    have hother : byPosition.align other q c =
        ofSpace (rightSpace p.col content.length b) (leftSpace p.col b) (b.right - b.left - 2) := by
      show ofContent other.length q.col c = _
      rw [ofContent_of_pos hwide', hleft, hright, hwidth]
    rw [hother, halign]
    exact ofSpace_swap _ _ _

/-- A button that hugs the left border, at its place and at the mirrored one, and moved away. -/
theorem align_mirror_button :
    0 < (⟨0, 0, 4, 22⟩ : Bounds).right - (⟨0, 0, 4, 22⟩ : Bounds).left - 2 ∧
    byPosition.align "[ OK ]".toList ⟨1, 2⟩ ⟨0, 0, 4, 22⟩ = .left ∧
    byPosition.align "[ OK ]".toList ⟨1, 15⟩ ⟨0, 0, 4, 22⟩ = .right ∧
    byPosition.align "[ OK ]".toList ⟨8, 7⟩ ⟨7, 5, 11, 27⟩ = .left := by
  have hwide : 0 < (⟨0, 0, 4, 22⟩ : Bounds).right - (⟨0, 0, 4, 22⟩ : Bounds).left - 2 := by decide
  have hleft : byPosition.align "[ OK ]".toList ⟨1, 2⟩ ⟨0, 0, 4, 22⟩ = .left := by decide +kernel
  obtain ⟨-, hmirror, -, hmoved⟩ := align_mirror "[ OK ]".toList ⟨1, 2⟩ ⟨0, 0, 4, 22⟩ hwide
  refine ⟨hwide, hleft, ?_, ?_⟩
  · rw [hmirror "[ OK ]".toList ⟨1, 15⟩ ⟨0, 0, 4, 22⟩ rfl rfl rfl, hleft]
    decide +kernel
  · rw [← hleft]
    exact hmoved 7 5

end AlignmentRule

end Wireframe
