import Wireframe.Proofs.Checked.Outline

/-!
# The nearest piece of a vertical edge

Where a vertical edge has no piece in its column, one that stands beside it is looked for on the same
row. `Candidate` says which pieces count, and `Nearest` which of them is meant: none is closer, and
one that is as far on the other side of the edge gives way to it (`ColumnLimit.Prefers`). There is
at most one such piece (`Nearest.unique`). The main statement is `nearestPipe_nearest`: the search
finds this piece, and it finds none only where nothing counts.
-/

namespace Wireframe

namespace ColumnLimit

/-- Of two columns at the same distance the first one is taken: the left one if the columns end at
a limit on the right, and the right one otherwise. -/
def Prefers : ColumnLimit → Int → Int → Prop
  | .anywhere, col, other => other ≤ col
  | .rightOf _, col, other => other ≤ col
  | .leftOf _, col, other => col ≤ other

/-- Two columns that are both taken before the other one are the same. -/
theorem Prefers.antisymm {limit : ColumnLimit} {col other : Int} (h : limit.Prefers col other)
    (h' : limit.Prefers other col) : col = other := by
  unfold Prefers at h h'
  cases limit with
  | anywhere => exact Int.le_antisymm h' h
  | rightOf lower => exact Int.le_antisymm h' h
  | leftOf upper => exact Int.le_antisymm h h'

/-- At the same distance, a column that points away from the box if the other one does is taken. -/
theorem prefers_of_isOutward {limit : ColumnLimit} {expected col other : Int}
    (hdistance : (other - expected).natAbs = (col - expected).natAbs)
    (h : limit.isOutward expected other = true → limit.isOutward expected col = true) :
    limit.Prefers col other := by
  -- Columns at one distance are the same or lie on both sides, and then one of them points away.
  cases limit with
  | anywhere | rightOf lower =>
    simp only [isOutward, decide_eq_true_eq] at h
    show other ≤ col
    omega
  | leftOf upper =>
    simp only [isOutward, decide_eq_true_eq] at h
    show col ≤ other
    omega

end ColumnLimit

namespace Grid

variable {g : Grid} {radius row expected col other : Int} {limit : ColumnLimit}

/-- What stands in the column may be the piece of a vertical edge that is missing in the expected
column of the row. -/
structure Candidate (g : Grid) (radius row expected : Int) (limit : ColumnLimit) (col : Int) :
    Prop where
  /-- It is a piece of a vertical edge. -/
  vertical : g.cellIs ⟨row, col⟩ .vertical = true
  /-- It stands beside the expected column. -/
  beside : 0 < (col - expected).natAbs
  /-- It is not further away than the radius. -/
  within : ((col - expected).natAbs : Int) ≤ radius
  /-- It lies behind a limit on the left. -/
  rightOf : ∀ lower, limit = .rightOf lower → lower < col
  /-- It lies before a limit on the right. -/
  leftOf : ∀ upper, limit = .leftOf upper → col < upper

/-- The candidates are the pieces that are looked at. -/
theorem mem_pipesNear_iff_candidate :
    col ∈ g.pipesNear radius row expected limit ↔ g.Candidate radius row expected limit col := by
  rw [mem_pipesNear_iff]
  constructor
  · rintro ⟨hcell, hleft, hright, hne, hadmits⟩
    refine ⟨hcell, by omega, by omega, ?_, ?_⟩
    · rintro lower rfl
      exact of_decide_eq_true hadmits
    · rintro upper rfl
      exact of_decide_eq_true hadmits
  · rintro ⟨hcell, hbeside, hwithin, hrightOf, hleftOf⟩
    refine ⟨hcell, by omega, by omega, by omega, ?_⟩
    cases limit with
    | anywhere => rfl
    | rightOf lower => exact decide_eq_true (hrightOf lower rfl)
    | leftOf upper => exact decide_eq_true (hleftOf upper rfl)

/-- The column holds the piece of a vertical edge that belongs into the expected column. -/
structure Nearest (g : Grid) (radius row expected : Int) (limit : ColumnLimit) (col : Int) :
    Prop where
  /-- It may be that piece. -/
  candidate : g.Candidate radius row expected limit col
  /-- No other one is closer. -/
  closest : ∀ other, g.Candidate radius row expected limit other →
    (col - expected).natAbs ≤ (other - expected).natAbs
  /-- One that is as far away gives way to it. -/
  preferred : ∀ other, g.Candidate radius row expected limit other →
    (other - expected).natAbs = (col - expected).natAbs → limit.Prefers col other

/-- Only one piece belongs into a column. -/
theorem Nearest.unique (h : g.Nearest radius row expected limit col)
    (h' : g.Nearest radius row expected limit other) : col = other := by
  have hdistance : (other - expected).natAbs = (col - expected).natAbs :=
    Nat.le_antisymm (h'.closest col h.candidate) (h.closest other h'.candidate)
  have hprefers := h.preferred other h'.candidate hdistance
  have hprefers' := h'.preferred col h.candidate hdistance.symm
  exact hprefers.antisymm hprefers'

/-- The piece that is found belongs into the column. -/
theorem nearest_of_nearestPipe (h : g.nearestPipe radius row expected limit = some col) :
    g.Nearest radius row expected limit col := by
  obtain ⟨hmem, hbest⟩ := of_nearestPipe_eq_some h
  refine ⟨mem_pipesNear_iff_candidate.1 hmem, fun other hother => ?_, fun other hother heq => ?_⟩
  · rcases hbest other (mem_pipesNear_iff_candidate.2 hother) with hlt | ⟨heq, -⟩
    · exact Nat.le_of_lt hlt
    · exact Nat.le_of_eq heq
  · rcases hbest other (mem_pipesNear_iff_candidate.2 hother) with hlt | ⟨-, houtward⟩
    · omega
    · exact ColumnLimit.prefers_of_isOutward heq houtward

/-- Nothing is found exactly where there is no candidate. -/
theorem nearestPipe_eq_none_iff_candidate :
    g.nearestPipe radius row expected limit = none ↔
      ∀ col, ¬ g.Candidate radius row expected limit col := by
  constructor
  · intro hnone col hcol
    obtain ⟨hcell, hleft, hright, hne, hadmits⟩ :=
      mem_pipesNear_iff.1 (mem_pipesNear_iff_candidate.2 hcol)
    exact hne (nearestPipe_eq_none_iff.1 hnone col hcell hleft hright hadmits)
  · intro hnot
    apply Option.eq_none_iff_forall_ne_some.2
    intro col hcol
    exact hnot col (nearest_of_nearestPipe hcol).candidate

/-- A piece of a vertical edge that is missing in a column of the drawing is looked for without a
failure. None is found exactly where there is no candidate, and a column is found exactly when it
holds the piece that belongs into the expected one. -/
theorem nearestPipe_nearest (g : Grid) (radius row : Int) (limit : ColumnLimit)
    (hexpected : 0 ≤ expected) :
    Checked.nearestPipe g radius row expected limit =
        .ok (g.nearestPipe radius row expected limit) ∧
      (g.nearestPipe radius row expected limit = none ↔
        ∀ col, ¬ g.Candidate radius row expected limit col) ∧
      ∀ col, g.nearestPipe radius row expected limit = some col ↔
        g.Nearest radius row expected limit col := by
  refine ⟨Checked.nearestPipe_eq hexpected, nearestPipe_eq_none_iff_candidate, fun col => ?_⟩
  refine ⟨nearest_of_nearestPipe, fun hnearest => ?_⟩
  -- Where there is a candidate something is found, and that is no other piece.
  cases hfound : g.nearestPipe radius row expected limit with
  | none => exact absurd hnearest.candidate (nearestPipe_eq_none_iff_candidate.1 hfound col)
  | some found => rw [hnearest.unique (nearest_of_nearestPipe hfound)]

/-- Between two pieces at the same distance the limit decides, and a radius of zero finds none. -/
theorem nearestPipe_nearest_between_two :
    (0 : Int) ≤ 3 ∧
    (ofLines ["| |x| |".toList]).nearestPipe 3 0 3 (.rightOf 0) = some 4 ∧
    (ofLines ["| |x| |".toList]).nearestPipe 3 0 3 (.leftOf 6) = some 2 ∧
    (ofLines ["| |x| |".toList]).nearestPipe 0 0 3 .anywhere = none := by
  have hexpected : (0 : Int) ≤ 3 := by decide
  obtain ⟨-, -, hright⟩ :=
    nearestPipe_nearest (ofLines ["| |x| |".toList]) 3 0 (.rightOf 0) hexpected
  obtain ⟨-, -, hleft⟩ :=
    nearestPipe_nearest (ofLines ["| |x| |".toList]) 3 0 (.leftOf 6) hexpected
  obtain ⟨-, hnone, -⟩ :=
    nearestPipe_nearest (ofLines ["| |x| |".toList]) 0 0 .anywhere hexpected
  refine ⟨hexpected, (hright 4).2 ⟨⟨by decide, by decide, by decide, ?_, ?_⟩, ?_, ?_⟩,
    (hleft 2).2 ⟨⟨by decide, by decide, by decide, ?_, ?_⟩, ?_, ?_⟩, hnone.2 ?_⟩
  · rintro lower ⟨⟩
    decide
  · rintro upper ⟨⟩
  · exact fun other hother => hother.beside
  · intro other hother heq
    show other ≤ 4
    omega
  · rintro lower ⟨⟩
  · rintro upper ⟨⟩
    decide
  · exact fun other hother => hother.beside
  · intro other hother heq
    show 2 ≤ other
    omega
  · intro col hcol
    have hbeside := hcol.beside
    have hwithin := hcol.within
    omega

end Grid

end Wireframe
