import Mathlib.Data.List.Nodup
import Wireframe.Proofs.Detection.Alarms
import Wireframe.Proofs.Outline.Faults

/-!
# Which failures are silenced

The failure of an outline is silenced when its start was reached by an earlier outline that is not
silenced itself, and when its right edge gets nowhere. `mem_suppressed_detect_iff` says so in terms
of the cells. An outline reaches corners of two sorts: the one where its top edge ends, on its own
row, and those of its bottom edge, which lie below (`mem_corners_outline_iff`,
`row_lt_of_mem_bottomCorners`).

A corner of a bottom edge is silenced for good reason. The corner where a top edge ends may begin a
box of its own that shares a side with the first one, and a failure there is silenced as well if
nothing of a right edge stands on the row below it (`suppressed_top_right_of_box`).
-/

namespace Wireframe

/-- The corners of its bottom edge that an outline has reached: all but the first, at which its top
edge ends. -/
def Outline.bottomCorners (o : Outline) : List Position := o.corners.tail

namespace Detection

/-- An outline adds its start to the silenced corners when its failure is silenced. -/
theorem mem_suppressed_add {found : Detection} {o : Outline} {p : Position} :
    p ∈ (found.add o).suppressed ↔ p ∈ found.suppressed ∨ (found.Silences o ∧ p = o.start) := by
  have h := adds_add found o
  generalize found.add o = found' at h
  cases h with
  | box box hok hloud => simp [hloud]
  | silence hbox hsilent => simp [hsilent]
  | report hbox hloud => simp [hloud]

/-- A corner is silenced when an outline that starts there is. -/
theorem mem_suppressed_iff {os : List Outline} {p : Position} :
    p ∈ (ofOutlines os).suppressed ↔
      ∃ before o after, os = before ++ o :: after ∧
        (ofOutlines before).Silences o ∧ p = o.start :=
  found_iff (F := fun found => p ∈ found.suppressed) (by simp [empty])
    (fun _ _ => mem_suppressed_add) os

end Detection

namespace Grid

variable {g : Grid} {radius : Int} {p q s : Position} {b : Bounds}

/-! ## The corners of an outline -/

/-- The corners that an outline reaches are the one where its top edge ends and those of its bottom
edge. -/
theorem mem_corners_outline_iff :
    p ∈ (g.outline radius s).corners ↔
      g.TopEdgeTo s p ∨ p ∈ (g.outline radius s).bottomCorners := by
  have hcons : ∀ corners : List Position, g.cellIs (g.topEnd s) .corner = true →
      (p ∈ g.topEnd s :: corners ↔ g.TopEdgeTo s p ∨ p ∈ corners) := by
    intro corners htop
    rw [List.mem_cons, ← reaches_right_iff, reaches_topEnd_iff]
    constructor
    · rintro (rfl | hp)
      · exact .inl ⟨rfl, htop⟩
      · exact .inr hp
    · rintro (⟨rfl, -⟩ | hp)
      · exact .inl rfl
      · exact .inr hp
  have hfollows := follows_outline g radius s
  generalize g.outline radius s = o at hfollows
  cases hfollows with
  | openTop htop =>
    -- Without a corner at its end there is no top edge.
    simp only [Outline.bottomCorners, List.tail_nil, List.not_mem_nil, or_false, false_iff]
    intro hto
    obtain ⟨rfl, hcorner⟩ := reaches_topEnd_iff.1 (reaches_right_iff.2 hto)
    rw [hcorner] at htop
    simp at htop
  | openRight problem corners htop hend => exact hcons corners htop
  | openBottom bottomRight htop hend hbottom => exact hcons [] htop
  | fromRight bottomRight htop hend hbottom => exact hcons _ htop
  | fromLeft bottomLeft bottomRight htop hend => exact hcons _ htop

/-- The corners of its bottom edge that an outline reaches lie below its start. -/
theorem row_lt_of_mem_bottomCorners (h : p ∈ (g.outline radius s).bottomCorners) :
    s.row < p.row := by
  have hfollows := follows_outline g radius s
  generalize g.outline radius s = o at hfollows h
  cases hfollows with
  | openTop htop => simp [Outline.bottomCorners] at h
  | openRight problem corners htop hend =>
    have hbelow := endsBelow_rightEdge radius htop
    rw [hend] at hbelow
    cases hbelow with
    | unclosed edge q _ hplace hrows => exact hrows p h
  | openBottom bottomRight htop hend hbottom => simp [Outline.bottomCorners] at h
  | fromRight bottomRight htop hend hbottom =>
    have hbelow := endsBelow_rightEdge radius htop
    rw [hend] at hbelow
    cases hbelow with
    | corner _ hrow hcorner =>
      have hp : p ∈ [bottomRight, g.bottomEnd bottomRight] := h
      rcases List.mem_pair.1 hp with rfl | rfl
      · exact hrow
      · exact hrow
  | fromLeft bottomLeft bottomRight htop hend =>
    have hbelow := endsBelow_rightEdge radius htop
    rw [hend] at hbelow
    cases hbelow with
    | fromLeft _ _ hrow hrows hleft hright =>
      have hp : p ∈ [bottomRight, bottomLeft] := h
      rcases List.mem_pair.1 hp with rfl | rfl
      · rw [hrows]
        exact hrow
      · exact hrow

/-! ## Silenced and reported -/

/-- A candidate is silenced when what was found before it silences its outline. -/
theorem mem_suppressed_iff_silences {earlier later : List Position}
    (hsplit : g.candidates = earlier ++ p :: later) :
    p ∈ (g.detect radius).suppressed ↔
      (Detection.ofOutlines (earlier.map (g.outline radius))).Silences (g.outline radius p) := by
  rw [detect, Detection.mem_suppressed_iff]
  constructor
  · rintro ⟨before, o, after, hos, hsilent, rfl⟩
    obtain ⟨earlier', p', later', hsplit', rfl, rfl⟩ := outlines_eq_append hos
    rw [start_outline] at hsplit
    -- No candidate comes twice, so both ways of splitting them are the same.
    have hnodup : g.candidates.Nodup := (pairwise_candidates g).imp fun h => h.ne
    rw [hsplit'] at hnodup hsplit
    obtain ⟨rfl, -, -⟩ := (List.append_cons_inj_of_notMem
      (fun h => (List.nodup_append.1 hnodup).2.2 p' h p' List.mem_cons_self rfl)
      (List.nodup_cons.1 (List.nodup_append.1 hnodup).2.1).1).1 hsplit
    rw [start_outline]
    exact hsilent
  · intro hsilent
    refine ⟨earlier.map (g.outline radius), g.outline radius p, later.map (g.outline radius), ?_,
      hsilent, (start_outline g radius p).symm⟩
    rw [hsplit, List.map_append, List.map_cons]

/-- What was found before a candidate has claimed the corners that earlier outlines have reached,
but for those that are silenced. -/
theorem mem_claimed_iff_reached {earlier later : List Position}
    (hsplit : g.candidates = earlier ++ p :: later) :
    q ∈ (Detection.ofOutlines (earlier.map (g.outline radius))).claimed ↔
      ∃ s ∈ earlier, s ∉ (g.detect radius).suppressed ∧ q ∈ (g.outline radius s).corners := by
  have hsilences : ∀ before s after, earlier = before ++ s :: after →
      (s ∈ (g.detect radius).suppressed ↔
        (Detection.ofOutlines (before.map (g.outline radius))).Silences (g.outline radius s)) := by
    rintro before s after rfl
    have hcandidates : g.candidates = before ++ s :: (after ++ p :: later) := by
      rw [hsplit, List.append_assoc, List.cons_append]
    exact mem_suppressed_iff_silences hcandidates
  rw [Detection.mem_claimed_iff]
  constructor
  · rintro ⟨before, o, after, hos, hloud, hq⟩
    obtain ⟨before', rest, hearlier, rfl, hrest⟩ := List.map_eq_append_iff.1 hos
    obtain ⟨s, after', rfl, rfl, -⟩ := List.map_eq_cons_iff.1 hrest
    refine ⟨s, by rw [hearlier]; simp, ?_, hq⟩
    rw [hsilences before' s after' hearlier]
    exact hloud
  · rintro ⟨s, hs, hloud, hq⟩
    obtain ⟨before, after, hearlier⟩ := List.append_of_mem hs
    refine ⟨before.map (g.outline radius), g.outline radius s, after.map (g.outline radius), ?_, ?_,
      hq⟩
    · rw [hearlier, List.map_append, List.map_cons]
    · rw [← hsilences before s after hearlier]
      exact hloud

/-- Of two candidates the one that precedes the other is tried first. -/
theorem mem_earlier_iff {earlier later : List Position}
    (hsplit : g.candidates = earlier ++ p :: later) :
    s ∈ earlier ↔ s ∈ g.candidates ∧ s.Precedes p := by
  have horder := pairwise_candidates g
  rw [hsplit] at horder ⊢
  obtain ⟨-, hrest, hbefore⟩ := List.pairwise_append.1 horder
  constructor
  · exact fun hs => ⟨List.mem_append_left _ hs, hbefore s hs p List.mem_cons_self⟩
  · rintro ⟨hs, hprecedes⟩
    rcases List.mem_append.1 hs with hs | hs
    · exact hs
    · rcases List.mem_cons.1 hs with rfl | hs
      · exact absurd rfl hprecedes.ne
      · exact absurd hprecedes (List.rel_of_pairwise_cons hrest hs).asymm

/-- The problems of a candidate that is not silenced are reported. -/
theorem mem_problems_detect_of_not_mem_suppressed (hp : p ∈ g.candidates)
    (hloud : p ∉ (g.detect radius).suppressed) {d : Diagnostic}
    (hd : d ∈ (g.outline radius p).problems) : d ∈ (g.detect radius).problems := by
  obtain ⟨earlier, later, hsplit⟩ := List.append_of_mem hp
  rw [mem_suppressed_iff_silences hsplit] at hloud
  exact mem_problems_detect_iff.2 ⟨earlier, p, later, hsplit, hloud, hd⟩

/-- A candidate is silenced when no box begins there, its right edge gets nowhere, and an outline
before it that is not silenced has reached it. -/
theorem mem_suppressed_detect_iff_reached :
    p ∈ (g.detect radius).suppressed ↔
      (p ∈ g.candidates ∧ ∀ b, g.Draws b → b.topLeft ≠ p) ∧
        (g.outline radius p).edgeRows = 0 ∧
          ∃ s ∈ g.candidates, s ∉ (g.detect radius).suppressed ∧ s.Precedes p ∧
            p ∈ (g.outline radius s).corners := by
  constructor
  · intro hsilent
    have hp : p ∈ g.candidates := by
      rw [detect, Detection.mem_suppressed_iff] at hsilent
      obtain ⟨before, o, after, hos, -, rfl⟩ := hsilent
      obtain ⟨earlier, p, later, hsplit, -, rfl⟩ := outlines_eq_append hos
      rw [start_outline, hsplit]
      simp
    obtain ⟨earlier, later, hsplit⟩ := List.append_of_mem hp
    obtain ⟨hbox, hclaimed, hrows⟩ := (mem_suppressed_iff_silences hsplit).1 hsilent
    rw [start_outline, mem_claimed_iff_reached hsplit] at hclaimed
    obtain ⟨s, hs, hloud, hcorner⟩ := hclaimed
    obtain ⟨hs, hprecedes⟩ := (mem_earlier_iff hsplit).1 hs
    exact ⟨⟨hp, (box?_outline_eq_none_iff hp).1 hbox⟩, hrows, s, hs, hloud, hprecedes, hcorner⟩
  · rintro ⟨⟨hp, hnot⟩, hrows, s, hs, hloud, hprecedes, hcorner⟩
    obtain ⟨earlier, later, hsplit⟩ := List.append_of_mem hp
    refine (mem_suppressed_iff_silences hsplit).2 ⟨(box?_outline_eq_none_iff hp).2 hnot, ?_, hrows⟩
    rw [start_outline, mem_claimed_iff_reached hsplit]
    exact ⟨s, (mem_earlier_iff hsplit).2 ⟨hs, hprecedes⟩, hloud, hcorner⟩

/-! ## Radii below zero -/

/-- Within a radius below zero nothing is found, as within a radius of zero. -/
theorem nearestPipe_max (g : Grid) (radius row expected : Int) (limit : ColumnLimit) :
    g.nearestPipe (max radius 0) row expected limit = g.nearestPipe radius row expected limit := by
  rcases Int.le_total radius 0 with hle | hle
  · rw [nearestPipe, nearestPipe, if_pos hle, if_pos (by omega)]
  · rw [max_eq_left hle]

/-- A walk down a right edge does not tell a radius below zero from zero. -/
theorem descend_max (g : Grid) (radius : Int) (start topRight : Position) (rows walked : Nat) :
    g.descend (max radius 0) start topRight rows walked =
      g.descend radius start topRight rows walked := by
  induction rows generalizing walked with
  | zero => rfl
  | succ rows ih => simp only [descend, nearestPipe_max, ih]

/-- A walk up a left edge does not tell a radius below zero from zero. -/
theorem climb_max (g : Grid) (radius : Int) (start topRight : Position) (rows : Nat) :
    g.climb (max radius 0) start topRight rows = g.climb radius start topRight rows := by
  induction rows with
  | zero => rfl
  | succ rows ih => simp only [climb, nearestPipe_max, ih]

/-- An outline does not tell a radius below zero from zero. -/
theorem outline_max (g : Grid) (radius : Int) (start : Position) :
    g.outline (max radius 0) start = g.outline radius start := by
  simp only [outline, closeOutline, descend_max, climb_max]

/-! ## What is silenced -/

/-- The line to the right of a corner leads to no corner below which a walk down a right edge gets
somewhere. -/
def LeadsNowhere (g : Grid) (radius : Int) (p : Position) : Prop :=
  ∀ q, g.TopEdgeTo p q → ¬ g.GoesBelow (max radius 0) p q

/-- An outline that is not silenced has reached a corner at its bottom edge, below its start. -/
def ReachedFromAbove (g : Grid) (radius : Int) (p : Position) : Prop :=
  ∃ s ∈ g.candidates, s ∉ (g.detect radius).suppressed ∧ s.row < p.row ∧
    p ∈ (g.outline radius s).bottomCorners

/-- Whether a corner was reached from above is decided by following the outlines. -/
instance (g : Grid) (radius : Int) (p : Position) : Decidable (g.ReachedFromAbove radius p) := by
  unfold ReachedFromAbove; infer_instance

/-- An outline that is not silenced has reached a corner at the end of its top edge, on its own
row. -/
def ReachedAlongRow (g : Grid) (radius : Int) (p : Position) : Prop :=
  ∃ s ∈ g.candidates, s ∉ (g.detect radius).suppressed ∧ g.TopEdgeTo s p

/-- A candidate is silenced when no box begins there, the line to its right leads nowhere, and an
outline that is not silenced has reached it from above or along its row. -/
theorem mem_suppressed_detect_iff :
    p ∈ (g.detect radius).suppressed ↔
      (p ∈ g.candidates ∧ ∀ b, g.Draws b → b.topLeft ≠ p) ∧ g.LeadsNowhere radius p ∧
        (g.ReachedFromAbove radius p ∨ g.ReachedAlongRow radius p) := by
  rw [mem_suppressed_detect_iff_reached, ← outline_max,
    edgeRows_outline_eq_zero_iff (Int.le_max_right radius 0)]
  refine and_congr_right fun _ => and_congr_right fun _ => ?_
  constructor
  · rintro ⟨s, hs, hloud, -, hcorner⟩
    rcases mem_corners_outline_iff.1 hcorner with hto | hbottom
    · exact .inr ⟨s, hs, hloud, hto⟩
    · exact .inl ⟨s, hs, hloud, row_lt_of_mem_bottomCorners hbottom, hbottom⟩
  · rintro (⟨s, hs, hloud, hrow, hbottom⟩ | ⟨s, hs, hloud, hto⟩)
    · exact ⟨s, hs, hloud, .inl hrow, mem_corners_outline_iff.2 (.inr hbottom)⟩
    · exact ⟨s, hs, hloud, .inr ⟨hto.1.symm, hto.2.1⟩, mem_corners_outline_iff.2 (.inl hto)⟩

/-- The top edge of a box leads along its row to its top right corner, and the outline of a box is
not silenced. -/
theorem Draws.reachedAlongRow (h : g.Draws b) (radius : Int) :
    g.ReachedAlongRow radius ⟨b.top, b.right⟩ := by
  refine ⟨b.topLeft, h.mem_candidates, fun hsilent => ?_, rfl, h.left_lt_right, h.topEdge,
    h.topRight⟩
  exact (mem_suppressed_detect_iff_reached.1 hsilent).1.2 b h rfl

/-- Which failures are silenced. A corner is silenced exactly when it may begin a box and none
begins there, the line to its right leads nowhere, and an outline that is not silenced has reached
it, from above at its bottom edge or along its row at the end of its top edge. All others are
reported. So the failure at the top right corner of a box is reported exactly when the line to its
right leads somewhere. -/
theorem suppressed_iff_reached_and_leadsNowhere (g : Grid) (radius : Int) :
    (∀ p, p ∈ (g.detect radius).suppressed ↔
        (p ∈ g.candidates ∧ ∀ b, g.Draws b → b.topLeft ≠ p) ∧ g.LeadsNowhere radius p ∧
          (g.ReachedFromAbove radius p ∨ g.ReachedAlongRow radius p)) ∧
      (∀ p ∈ g.candidates, p ∉ (g.detect radius).suppressed →
        ∀ d ∈ (g.outline radius p).problems, d ∈ (g.detect radius).problems) ∧
      ∀ b, g.Draws b → (⟨b.top, b.right⟩ : Position) ∈ g.candidates →
        (∀ b', g.Draws b' → b'.topLeft ≠ ⟨b.top, b.right⟩) →
          (⟨b.top, b.right⟩ ∉ (g.detect radius).suppressed ↔
            ∃ q, g.TopEdgeTo ⟨b.top, b.right⟩ q ∧
              g.GoesBelow (max radius 0) ⟨b.top, b.right⟩ q) := by
  refine ⟨fun p => mem_suppressed_detect_iff,
    fun p hp hloud d hd => mem_problems_detect_of_not_mem_suppressed hp hloud hd, ?_⟩
  intro b hb hcandidate hnot
  rw [mem_suppressed_detect_iff]
  constructor
  · intro hloud
    by_contra hnowhere
    refine hloud ⟨⟨hcandidate, hnot⟩, fun q hto hbelow => ?_, .inr (hb.reachedAlongRow radius)⟩
    exact hnowhere ⟨q, hto, hbelow⟩
  · rintro ⟨q, hto, hbelow⟩ ⟨-, hnowhere, -⟩
    exact hnowhere q hto hbelow

/-- A box whose right side is the left side of a broken one. -/
def brokenNeighbour : Grid := ofLines ["+--+--+".toList, "|  |  |".toList, "+--+--".toList]

/-- The line to the right of the top right corner of the complete box leads to a corner with a right
edge below it, so that the failure is reported. -/
theorem suppressed_iff_reached_and_leadsNowhere_broken_neighbour :
    brokenNeighbour.Draws ⟨0, 0, 2, 3⟩ ∧
      ⟨0, 3⟩ ∉ (brokenNeighbour.detect 3).suppressed ∧
      ∃ q, brokenNeighbour.TopEdgeTo ⟨0, 3⟩ q ∧
        brokenNeighbour.GoesBelow (max 3 0) ⟨0, 3⟩ q := by
  have hdraws : brokenNeighbour.Draws ⟨0, 0, 2, 3⟩ := by decide
  have hcandidate : ⟨0, 3⟩ ∈ brokenNeighbour.candidates := by decide
  have hloud : ⟨0, 3⟩ ∉ (brokenNeighbour.detect 3).suppressed := by decide
  have hfails : (brokenNeighbour.outline 3 ⟨0, 3⟩).box? = none := by decide
  have hnot := (box?_outline_eq_none_iff hcandidate).1 hfails
  exact ⟨hdraws, hloud, ((suppressed_iff_reached_and_leadsNowhere _ 3).2.2 ⟨0, 0, 2, 3⟩ hdraws
    hcandidate hnot).1 hloud⟩

/-- The same boxes with nothing drawn below the top edge of the broken one. -/
def topEdgeBeside : Grid := ofLines ["+--+--+".toList, "|  |".toList, "+--+".toList]

/-- The broken one begins at the top right corner of the complete box and at no corner of a bottom
edge, and yet its failure is silenced and nothing is reported. -/
theorem suppressed_top_right_of_box :
    topEdgeBeside.Draws ⟨0, 0, 2, 3⟩ ∧
      (topEdgeBeside.outline 3 ⟨0, 3⟩).box? = none ∧
      ⟨0, 3⟩ ∈ (topEdgeBeside.detect 3).suppressed ∧
      ¬ topEdgeBeside.ReachedFromAbove 3 ⟨0, 3⟩ ∧
      (topEdgeBeside.detect 3).problems = [] := by
  decide

end Grid

end Wireframe
