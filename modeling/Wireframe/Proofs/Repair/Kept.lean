import Mathlib.Data.List.Forall2
import Wireframe.Proofs.Repair.Edits

/-!
# Relations that edits keep

A repair replaces one line, or two for edges that do not match, and leaves the others alone. So a
relation between a line and what becomes of it is shown once for each of the four edits of a line
(`KeptByEdits`), and holds then between all lines before and after a repair
(`KeptByEdits.forall₂`).
-/

namespace Wireframe.Repair.Strategy

section Lists

variable {α : Type} {R : α → α → Prop} {xs ys zs : List α}

/-- Lists that are related entry by entry twice are so once. -/
theorem forall₂_trans (htrans : ∀ a b c, R a b → R b c → R a c) (h : List.Forall₂ R xs ys)
    (h' : List.Forall₂ R ys zs) : List.Forall₂ R xs zs := by
  induction h generalizing zs with
  | nil => exact h'
  | cons hxy _ ih =>
    cases h' with
    | cons hyz hrest => exact .cons (htrans _ _ _ hxy hyz) (ih hrest)

/-- Replacing an entry by a related one relates all entries. -/
theorem forall₂_set (hrefl : ∀ a, R a a) {i : Nat} {old new : α} (hold : xs[i]? = some old)
    (h : R old new) : List.Forall₂ R xs (xs.set i new) := by
  induction xs generalizing i with
  | nil => simp at hold
  | cons x xs ih =>
    cases i with
    | zero =>
      obtain rfl : x = old := by simpa using hold
      exact .cons h (List.forall₂_same.2 fun y _ => hrefl y)
    | succ i => exact .cons (hrefl x) (ih (by simpa using hold))

/-- Entries at one index of related lists are related. -/
theorem rel_of_forall₂ (h : List.Forall₂ R xs ys) {i : Nat} {x y : α} (hx : xs[i]? = some x)
    (hy : ys[i]? = some y) : R x y := by
  obtain ⟨hi, rfl⟩ := List.getElem?_eq_some_iff.1 hx
  obtain ⟨hi', rfl⟩ := List.getElem?_eq_some_iff.1 hy
  exact (List.forall₂_iff_get.1 h).2 i hi hi'

/-- An entry of one of two related lists is related to an entry of the other one. -/
theorem exists_mem_of_forall₂ (h : List.Forall₂ R xs ys) {y : α} (hy : y ∈ ys) :
    ∃ x ∈ xs, R x y := by
  obtain ⟨i, hi, rfl⟩ := List.getElem_of_mem hy
  have hi' : i < xs.length := by rwa [h.length_eq]
  exact ⟨xs[i], List.getElem_mem hi', (List.forall₂_iff_get.1 h).2 i hi' hi⟩

end Lists

/-- A line that was replaced is the new one. -/
theorem getElem?_setLine {lines : List Line} {row : Nat} {old : Line} (h : lines[row]? = some old)
    (new : Line) : (setLine lines row new)[row]? = some new := by
  unfold setLine
  rw [Int.toNat_natCast, List.getElem?_set_self (List.getElem?_eq_some_iff.1 h).1]

/-- The other lines stay. -/
theorem getElem?_setLine_of_ne {row other : Nat} (h : row ≠ other) (lines : List Line)
    (new : Line) : (setLine lines row new)[other]? = lines[other]? := by
  unfold setLine
  rw [Int.toNat_natCast, List.getElem?_set_ne h]

/-- A relation between a line and what becomes of it that is kept by every edit of a line by one of
the strategies. -/
structure KeptByEdits (strategies : List Strategy) (R : Line → Line → Prop) : Prop where
  /-- A line may stay. -/
  refl : ∀ line, R line line
  /-- A line may be edited again. -/
  trans : ∀ a b c, R a b → R b c → R a c
  /-- The tabs of a line may be expanded. -/
  tab : ∀ width line, .tab width ∈ strategies → R line (expandTabs width line)
  /-- A piece of an edge may be moved. -/
  pipe : ∀ (line moved : Line) (expected actual : Nat),
    movePipe line expected actual = some moved → R line moved
  /-- A bracket may be closed in front of an edge. -/
  bracket : ∀ (chars closed content : Line) (col edge : Nat), content ≠ [] →
    col + content.length ≤ edge → chars[edge]? = some '|' →
      closeBracket chars col content = some closed → R chars closed
  /-- A corner may be moved. -/
  corner : ∀ (line extended : Line) (old new : Nat),
    extendEdge line old new = some extended → R line extended

namespace KeptByEdits

variable {strategies : List Strategy} {R : Line → Line → Prop} {lines repaired : List Line}

/-- What edits of a line keep holds between all lines when one is replaced. -/
theorem forall₂_setLine (hR : KeptByEdits strategies R) {row : Nat} {old new : Line}
    (hold : lines[row]? = some old) (h : R old new) :
    List.Forall₂ R lines (setLine lines row new) := by
  unfold setLine
  rw [Int.toNat_natCast]
  exact forall₂_set hR.refl hold h

/-- What edits of a line keep holds between all lines when two corners are aligned. -/
theorem forall₂_aligns (hR : KeptByEdits strategies R) {topRow bottomRow top bottom : Nat}
    (h : Corners.Aligns topRow bottomRow (differing top bottom) lines repaired) :
    List.Forall₂ R lines repaired := by
  have hmoved : ∀ {row old new : Nat}, extendRow lines row old new = some repaired →
      List.Forall₂ R lines repaired := by
    intro row old new hrow
    obtain ⟨r, line, moved, -, hline, hmoved, rfl⟩ := exists_of_extendRow hrow
    exact hR.forall₂_setLine hline (hR.corner line moved old new hmoved)
  rcases h.eq_or_extendRow with ⟨-, rfl⟩ | ⟨-, htop | hbottom⟩
  · exact List.forall₂_same.2 fun line _ => hR.refl line
  · exact hmoved htop
  · exact hmoved hbottom

/-- What edits of a line keep holds between all lines before and after a repair. -/
theorem forall₂ (hR : KeptByEdits strategies R) {d : Diagnostic}
    (h : Repaired strategies lines d repaired) : List.Forall₂ R lines repaired := by
  cases h with
  | tab row col width snippet line hwidth hline htab =>
    exact hR.forall₂_setLine hline (hR.tab width line hwidth)
  | pipe row expected actual line moved hline hmoved =>
    exact hR.forall₂_setLine hline (hR.pipe line moved expected actual hmoved)
  | bracket row col edge content line closed hcontent hbehind hedge hline hclosed =>
    exact hR.forall₂_setLine hline
      (hR.bracket line closed content col edge hcontent hbehind hedge hclosed)
  | width top left right bottom bottomLeft bottomRight topWidth bottomWidth _ haligned =>
    obtain ⟨-, half, hleft, hright⟩ := Corners.exists_of_align haligned
    exact forall₂_trans hR.trans (hR.forall₂_aligns hleft) (hR.forall₂_aligns hright)

end KeptByEdits

end Wireframe.Repair.Strategy
