import Mathlib.Data.List.Induction
import Wireframe.Detection
import Wireframe.Proofs.Outline.Exact

/-!
# What detection finds

The boxes that are found in a grid are the boxes drawn in it, each once and in reading order
(`mem_bounds_detect_iff`, `pairwise_boxes_detect`). A problem is found when an outline has it that
is not silenced, a corner is claimed when such an outline reaches it, and whether an outline is
silenced depends on the outlines before it only (`mem_problems_iff`, `mem_claimed_iff`). So without
problems every corner that may begin a box is a corner of a drawn box (`hasCorner_of_no_problems`).
-/

namespace Wireframe

namespace Outline

/-- An outline is that of a box when there is a box. -/
theorem box?_eq_some_iff {o : Outline} {box : Box} :
    o.box? = some box ↔ o.outcome = .ok box := by
  rw [box?]
  cases o.outcome <;> simp

/-- An outline with a problem is not that of a box. -/
theorem box?_of_mem_problems {o : Outline} {d : Diagnostic} (h : d ∈ o.problems) :
    o.box? = none := by
  rw [problems] at h
  rw [box?]
  cases houtcome : o.outcome with
  | ok box => simp [houtcome] at h
  | error problems => rfl

end Outline

namespace Detection

/-! ## One more outline -/

/-- The failure of an outline is silenced by what was found before it: the outline starts at a
claimed corner and did not get below its own first row. -/
def Silences (found : Detection) (o : Outline) : Prop :=
  o.box? = none ∧ o.start ∈ found.claimed ∧ o.edgeRows = 0

/-- What one more outline adds, by its outcome: a box, nothing but its start when it is silenced, or
its problems. -/
inductive Adds (found : Detection) (o : Outline) : Detection → Prop where
  /-- The outline is that of a box. -/
  | box (box : Box) (hok : o.outcome = .ok box) (hloud : ¬ found.Silences o) :
    Adds found o ⟨found.boxes ++ [box], found.problems, found.outlines ++ [o], found.suppressed,
      found.claimed ++ o.corners⟩
  /-- The outline failed and is silenced. -/
  | silence (hbox : o.box? = none) (hsilent : found.Silences o) :
    Adds found o ⟨found.boxes, found.problems, found.outlines ++ [o], found.suppressed ++ [o.start],
      found.claimed⟩
  /-- The outline failed and is reported. -/
  | report (hbox : o.box? = none) (hloud : ¬ found.Silences o) :
    Adds found o ⟨found.boxes, o.problems.foldl addProblem found.problems, found.outlines ++ [o],
      found.suppressed, found.claimed ++ o.corners⟩

/-- One more outline adds one of these. -/
theorem adds_add (found : Detection) (o : Outline) : Adds found o (found.add o) := by
  unfold add
  dsimp only
  split
  · next box hok =>
    have hbox := Outline.box?_eq_some_iff.2 hok
    refine .box box hok fun hsilent => ?_
    rw [hsilent.1] at hbox
    simp at hbox
  · next problems herror =>
    have hbox : o.box? = none := by rw [Outline.box?, herror]
    have hproblems : o.problems = problems := by rw [Outline.problems, herror]
    split
    · next hsilent => exact .silence hbox ⟨hbox, hsilent⟩
    · next hloud =>
      rw [← hproblems]
      exact .report hbox fun hsilent => hloud hsilent.2

/-- An outline adds its box. -/
theorem boxes_add (found : Detection) (o : Outline) :
    (found.add o).boxes = found.boxes ++ o.box?.toList := by
  have h := adds_add found o
  generalize found.add o = found' at h
  cases h with
  | box box hok hloud => rw [Outline.box?_eq_some_iff.2 hok, Option.toList_some]
  | silence hbox hsilent => rw [hbox, Option.toList_none, List.append_nil]
  | report hbox hloud => rw [hbox, Option.toList_none, List.append_nil]

/-- A problem is added unless it is there. -/
theorem mem_addProblem {problems : List Diagnostic} {d e : Diagnostic} :
    d ∈ addProblem problems e ↔ d ∈ problems ∨ d = e := by
  rw [addProblem]
  split
  · next h =>
    constructor
    · exact .inl
    · rintro (hd | rfl)
      · exact hd
      · exact h
  · simp

/-- Several problems are added unless they are there. -/
theorem mem_foldl_addProblem {problems more : List Diagnostic} {d : Diagnostic} :
    d ∈ more.foldl addProblem problems ↔ d ∈ problems ∨ d ∈ more := by
  induction more generalizing problems with
  | nil => simp
  | cons e more ih => rw [List.foldl_cons, ih, mem_addProblem, List.mem_cons, or_assoc]

/-- An outline adds its problems unless it is silenced. -/
theorem mem_problems_add {found : Detection} {o : Outline} {d : Diagnostic} :
    d ∈ (found.add o).problems ↔ d ∈ found.problems ∨ (¬ found.Silences o ∧ d ∈ o.problems) := by
  have h := adds_add found o
  generalize found.add o = found' at h
  cases h with
  | box box hok hloud =>
    have hnone : o.problems = [] := by rw [Outline.problems, hok]
    simp [hnone]
  | silence hbox hsilent => simp [hsilent]
  | report hbox hloud =>
    rw [mem_foldl_addProblem]
    simp [hloud]

/-- An outline claims the corners it has reached unless it is silenced. -/
theorem mem_claimed_add {found : Detection} {o : Outline} {p : Position} :
    p ∈ (found.add o).claimed ↔ p ∈ found.claimed ∨ (¬ found.Silences o ∧ p ∈ o.corners) := by
  have h := adds_add found o
  generalize found.add o = found' at h
  cases h with
  | box box hok hloud => simp [hloud]
  | silence hbox hsilent => simp [hsilent]
  | report hbox hloud => simp [hloud]

/-! ## All outlines -/

/-- What a list of outlines amounts to with one more at its end. -/
theorem ofOutlines_concat (os : List Outline) (o : Outline) :
    ofOutlines (os ++ [o]) = (ofOutlines os).add o := by
  rw [ofOutlines, List.foldl_append]
  rfl

/-- The boxes of several outlines are those of each in turn. -/
theorem boxes_ofOutlines (os : List Outline) :
    (ofOutlines os).boxes = os.filterMap Outline.box? := by
  induction os using List.reverseRecOn with
  | nil => rfl
  | append_singleton os o ih =>
    rw [ofOutlines_concat, boxes_add, ih, List.filterMap_append]
    cases hbox : o.box? <;> simp [hbox]

/-- Every outline is kept. -/
theorem outlines_ofOutlines (os : List Outline) : (ofOutlines os).outlines = os := by
  induction os using List.reverseRecOn with
  | nil => rfl
  | append_singleton os o ih =>
    have hadds := adds_add (ofOutlines os) o
    rw [ofOutlines_concat]
    generalize (ofOutlines os).add o = found at hadds ⊢
    cases hadds <;> rw [ih]

/-- What is found in the end was found at some outline, given what the outlines before it amount to.
This is so for anything that is not there at first and is never lost. -/
theorem found_iff {F : Detection → Prop} {A : Detection → Outline → Prop}
    (hempty : ¬ F empty)
    (hadd : ∀ found o, F (found.add o) ↔ F found ∨ A found o) (os : List Outline) :
    F (ofOutlines os) ↔
      ∃ before o after, os = before ++ o :: after ∧ A (ofOutlines before) o := by
  induction os using List.reverseRecOn with
  | nil =>
    have hnil : ofOutlines [] = empty := rfl
    simpa [hnil] using hempty
  | append_singleton os last ih =>
    rw [ofOutlines_concat, hadd, ih]
    constructor
    · rintro (⟨before, o, after, rfl, hfinds⟩ | hfinds)
      · exact ⟨before, o, after ++ [last], by simp, hfinds⟩
      · exact ⟨os, last, [], rfl, hfinds⟩
    · rintro ⟨before, o, after, hsplit, hfinds⟩
      -- The outline in question is the last one or stands before it.
      rcases List.eq_nil_or_concat after with rfl | ⟨after, other, rfl⟩
      · obtain ⟨rfl, hlast⟩ := List.append_inj' hsplit rfl
        rw [List.singleton_inj] at hlast
        exact .inr (by rw [hlast]; exact hfinds)
      · rw [List.concat_eq_append, ← List.cons_append, ← List.append_assoc] at hsplit
        obtain ⟨rfl, -⟩ := List.append_inj' hsplit rfl
        exact .inl ⟨before, o, after, rfl, hfinds⟩

/-- A problem is found when an outline has it that is not silenced. -/
theorem mem_problems_iff {os : List Outline} {d : Diagnostic} :
    d ∈ (ofOutlines os).problems ↔
      ∃ before o after, os = before ++ o :: after ∧
        ¬ (ofOutlines before).Silences o ∧ d ∈ o.problems :=
  found_iff (F := fun found => d ∈ found.problems) (by simp [empty])
    (fun _ _ => mem_problems_add) os

/-- A corner is claimed when an outline has reached it that is not silenced. -/
theorem mem_claimed_iff {os : List Outline} {p : Position} :
    p ∈ (ofOutlines os).claimed ↔
      ∃ before o after, os = before ++ o :: after ∧
        ¬ (ofOutlines before).Silences o ∧ p ∈ o.corners :=
  found_iff (F := fun found => p ∈ found.claimed) (by simp [empty])
    (fun _ _ => mem_claimed_add) os

end Detection

namespace Grid

variable {g : Grid} {radius : Int} {b : Bounds} {p : Position}

/-! ## Candidates -/

/-- The candidates are the corners with a piece of a horizontal edge to their right. -/
theorem mem_candidates_iff :
    p ∈ g.candidates ↔
      g.cellIs p .corner = true ∧ g.cellIs (p.right 1) .horizontal = true := by
  rw [candidates, List.mem_filter, mem_positions_iff rfl, lists_eq_cellIs g rfl]

/-- The candidates come in reading order. -/
theorem pairwise_candidates (g : Grid) : g.candidates.Pairwise Position.Precedes :=
  (pairwise_positions g .corner).filter _

/-- The top left corner of a box is a candidate. -/
theorem Draws.mem_candidates (h : g.Draws b) : b.topLeft ∈ g.candidates :=
  mem_candidates_iff.2 ⟨h.topLeft, h.opening⟩

/-- The outline at a candidate is that of a box when a box is drawn there. -/
theorem Draws.outline_ok (h : g.Draws b) (radius : Int) :
    ∃ name, (g.outline radius b.topLeft).outcome = .ok ⟨b, name⟩ := by
  rw [h.toCloses.outline_eq]
  exact ⟨_, rfl⟩

/-- A box whose outline starts at a candidate is drawn. -/
theorem draws_of_outline_ok (hp : p ∈ g.candidates) {box : Box}
    (hok : (g.outline radius p).outcome = .ok box) :
    g.Draws box.bounds ∧ box.bounds.topLeft = p := by
  obtain ⟨hcloses, hstart⟩ := (follows_outline g radius p).closes hok
  obtain ⟨hcorner, hopening⟩ := mem_candidates_iff.1 hp
  rw [← hstart] at hcorner hopening
  exact ⟨{ toCloses := hcloses, topLeft := hcorner, opening := hopening }, hstart⟩

/-- The outline at a candidate is not that of a box when no box is drawn there. -/
theorem box?_outline_eq_none_iff (hp : p ∈ g.candidates) :
    (g.outline radius p).box? = none ↔ ∀ b, g.Draws b → b.topLeft ≠ p := by
  constructor
  · rintro hnone b hb rfl
    obtain ⟨name, hok⟩ := hb.outline_ok radius
    rw [Outline.box?_eq_some_iff.2 hok] at hnone
    simp at hnone
  · intro hnot
    cases hbox : (g.outline radius p).box? with
    | none => rfl
    | some box =>
      obtain ⟨hdraws, hstart⟩ := draws_of_outline_ok hp (Outline.box?_eq_some_iff.1 hbox)
      exact absurd hstart (hnot _ hdraws)

/-- The other corners of a drawn box are those that its outline reaches. -/
theorem Draws.mem_corners_iff (h : g.Draws b) :
    p ∈ (g.outline radius b.topLeft).corners ↔ b.HasCorner p ∧ p ≠ b.topLeft := by
  have hrows := h.top_lt_bottom
  have hcols := h.left_lt_right
  obtain ⟨row, col⟩ := p
  rw [h.toCloses.outline_eq]
  simp only [List.mem_cons, List.not_mem_nil, or_false, Position.mk.injEq, Bounds.HasCorner,
    Bounds.topLeft, ne_eq]
  omega

/-- An outline keeps the place where it starts. -/
@[simp] theorem start_outline (g : Grid) (radius : Int) (p : Position) :
    (g.outline radius p).start = p := by
  have h := follows_outline g radius p
  generalize g.outline radius p = o at h
  cases h <;> rfl

/-! ## Boxes -/

/-- The boxes found are those of the outlines at the candidates. -/
theorem boxes_detect (g : Grid) (radius : Int) :
    (g.detect radius).boxes = g.candidates.filterMap fun p => (g.outline radius p).box? := by
  rw [detect, Detection.boxes_ofOutlines, List.filterMap_map]
  rfl

/-- The boxes found are the boxes drawn. -/
theorem mem_bounds_detect_iff :
    b ∈ (g.detect radius).boxes.map (·.bounds) ↔ g.Draws b := by
  simp only [boxes_detect, List.mem_map, List.mem_filterMap, Outline.box?_eq_some_iff]
  constructor
  · rintro ⟨box, ⟨p, hp, hok⟩, rfl⟩
    exact (draws_of_outline_ok hp hok).1
  · intro h
    obtain ⟨name, hok⟩ := h.outline_ok radius
    exact ⟨⟨b, name⟩, ⟨b.topLeft, h.mem_candidates, hok⟩, rfl⟩

/-- Every box found is drawn. -/
theorem draws_of_mem_detect {box : Box} (h : box ∈ (g.detect radius).boxes) :
    g.Draws box.bounds :=
  mem_bounds_detect_iff.1 (List.mem_map_of_mem h)

/-- The boxes found come in reading order of their top left corners. -/
theorem pairwise_boxes_detect (g : Grid) (radius : Int) :
    (g.detect radius).boxes.Pairwise fun a b => a.bounds.topLeft.Precedes b.bounds.topLeft := by
  rw [boxes_detect]
  refine List.pairwise_filterMap.2 ((pairwise_candidates g).imp_of_mem ?_)
  intro p q hp hq hpq a ha b hb
  rw [Outline.box?_eq_some_iff] at ha hb
  rw [(draws_of_outline_ok hp ha).2, (draws_of_outline_ok hq hb).2]
  exact hpq

/-- No rectangle is found twice. -/
theorem nodup_bounds_detect (g : Grid) (radius : Int) :
    ((g.detect radius).boxes.map (·.bounds)).Nodup := by
  refine List.pairwise_map.2 ((pairwise_boxes_detect g radius).imp ?_)
  intro a b hab hsame
  exact hab.ne (by rw [hsame])

/-! ## Problems -/

/-- The outlines before and after one of those that were followed are those at the candidates before
and after its start. -/
theorem outlines_eq_append {before after : List Outline} {o : Outline}
    (h : g.candidates.map (g.outline radius) = before ++ o :: after) :
    ∃ earlier p later, g.candidates = earlier ++ p :: later ∧
      earlier.map (g.outline radius) = before ∧ g.outline radius p = o := by
  obtain ⟨earlier, rest, hsplit, hearlier, hrest⟩ := List.map_eq_append_iff.1 h
  obtain ⟨p, later, rfl, hp, -⟩ := List.map_eq_cons_iff.1 hrest
  exact ⟨earlier, p, later, hsplit, hearlier, hp⟩

/-- The outline at a candidate that is not silenced adds its problems to those found. -/
theorem mem_problems_detect_iff {d : Diagnostic} :
    d ∈ (g.detect radius).problems ↔
      ∃ earlier p later, g.candidates = earlier ++ p :: later ∧
        ¬ (Detection.ofOutlines (earlier.map (g.outline radius))).Silences (g.outline radius p) ∧
        d ∈ (g.outline radius p).problems := by
  rw [detect, Detection.mem_problems_iff]
  constructor
  · rintro ⟨before, o, after, hsplit, hloud, hd⟩
    obtain ⟨earlier, p, later, hcandidates, rfl, rfl⟩ := outlines_eq_append hsplit
    exact ⟨earlier, p, later, hcandidates, hloud, hd⟩
  · rintro ⟨earlier, p, later, hcandidates, hloud, hd⟩
    refine ⟨earlier.map (g.outline radius), g.outline radius p, later.map (g.outline radius), ?_,
      hloud, hd⟩
    rw [hcandidates, List.map_append, List.map_cons]

/-- An outline that is not that of a box has a problem. -/
theorem exists_mem_problems (h : (g.outline radius p).box? = none) :
    ∃ d, d ∈ (g.outline radius p).problems := by
  obtain ⟨problems, hne, herror⟩ := exists_problems g radius p fun box hok => by
    rw [Outline.box?_eq_some_iff.2 hok] at h
    simp at h
  rw [Outline.problems, herror]
  exact List.exists_mem_of_ne_nil problems hne

/-- When no problems are found, every outline that is not that of a box is silenced. -/
theorem silences_of_no_problems (h : (g.detect radius).problems = [])
    {earlier later : List Position} (hsplit : g.candidates = earlier ++ p :: later)
    (hbox : (g.outline radius p).box? = none) :
    (Detection.ofOutlines (earlier.map (g.outline radius))).Silences (g.outline radius p) := by
  by_contra hloud
  obtain ⟨d, hd⟩ := exists_mem_problems hbox
  have hfound := mem_problems_detect_iff.2 ⟨earlier, p, later, hsplit, hloud, hd⟩
  rw [h] at hfound
  simp at hfound

/-- When no problems are found, every candidate is a corner of a drawn box. -/
theorem hasCorner_of_no_problems (h : (g.detect radius).problems = []) (hp : p ∈ g.candidates) :
    ∃ b, g.Draws b ∧ b.HasCorner p := by
  cases hbox : (g.outline radius p).box? with
  | some box =>
    obtain ⟨hdraws, rfl⟩ := draws_of_outline_ok hp (Outline.box?_eq_some_iff.1 hbox)
    exact ⟨box.bounds, hdraws, .inl rfl, .inl rfl⟩
  | none =>
    -- The failure is silenced, so an outline before it has claimed the corner.
    obtain ⟨earlier, later, hsplit⟩ := List.append_of_mem hp
    obtain ⟨-, hclaimed, -⟩ := silences_of_no_problems h hsplit hbox
    rw [start_outline, Detection.mem_claimed_iff] at hclaimed
    obtain ⟨before, o, after, hbefore, hloud, hcorner⟩ := hclaimed
    obtain ⟨before', rest, rfl, hbefore', hrest⟩ := List.map_eq_append_iff.1 hbefore
    obtain ⟨q, after', rfl, rfl, -⟩ := List.map_eq_cons_iff.1 hrest
    have hq : q ∈ g.candidates := by
      rw [hsplit]
      simp
    have hsplit' : g.candidates = before' ++ q :: (after' ++ p :: later) := by
      rw [hsplit]
      simp
    -- That outline was not silenced, so it is that of a box.
    cases hboxq : (g.outline radius q).box? with
    | some box =>
      obtain ⟨hdraws, rfl⟩ := draws_of_outline_ok hq (Outline.box?_eq_some_iff.1 hboxq)
      exact ⟨box.bounds, hdraws, (hdraws.mem_corners_iff.1 hcorner).1⟩
    | none =>
      rw [← hbefore'] at hloud
      exact absurd (silences_of_no_problems h hsplit' hboxq) hloud

end Grid

end Wireframe
