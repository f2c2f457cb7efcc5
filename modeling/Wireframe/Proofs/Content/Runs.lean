import Wireframe.Proofs.Content.Rectangles

/-!
# Runs of boxes

Elements fall into runs: single elements, and boxes side by side of which each continues the one in
front of it. There is only one way to cut elements into runs that cannot be longer (`isCut_iff`),
and putting boxes side by side into rows replaces each of these runs by one element
(`gatherRows_replaces_runs`). A row continues nothing and nothing continues it, so a second time
nothing is left to put together (`gatherRows_of_isChain`).
-/

namespace Wireframe

/-- If every entry of a list gives one entry that is related to it, so do all of them in turn. -/
theorem forall₂_flatMap {α β : Type} {R : α → β → Prop} {g : α → List β} {xs : List α}
    (h : ∀ x ∈ xs, ∃ y, g x = [y] ∧ R x y) : List.Forall₂ R xs (xs.flatMap g) := by
  induction xs with
  | nil => exact .nil
  | cons x xs ih =>
    obtain ⟨y, hy, hxy⟩ := h x List.mem_cons_self
    rw [List.flatMap_cons, hy]
    exact .cons hxy (ih fun z hz => h z (List.mem_cons_of_mem x hz))

namespace Element

variable {a c e : Element} {es run : List Element} {runs : List (List Element)} {container : Bounds}

/-- The second element continues the first one: both are boxes with the same top and bottom, and the
second one begins where the first one ends or further right. Boxes that share an edge do not overlap
(`Bounds.overlaps`), so their columns are apart too. -/
def Continues (a c : Element) : Prop :=
  ∃ x y, a.boxBounds? = some x ∧ c.boxBounds? = some y ∧ x.top = y.top ∧ x.bottom = y.bottom ∧
    x.right ≤ y.left

/-- Whether an element continues another one is read off their rectangles. -/
theorem continuesRow_iff : continuesRow a c = true ↔ Continues a c := by
  unfold continuesRow Continues
  constructor
  · intro h
    split at h
    · next x y hx hy =>
      simp only [Bool.and_eq_true, decide_eq_true_iff] at h
      exact ⟨x, y, hx, hy, h.1.1, h.1.2, h.2⟩
    · exact absurd h Bool.false_ne_true
  · rintro ⟨x, y, hx, hy, htop, hbottom, hcols⟩
    simp [hx, hy, htop, hbottom, hcols]

/-- A box that continues a second one also continues what that one continues, since the second one
does not begin behind its own right edge. -/
theorem Continues.trans {d : Element} (h : Continues a c) (h' : Continues c d)
    (hvalid : ∀ x, c.boxBounds? = some x → x.Valid) : Continues a d := by
  obtain ⟨x, y, hx, hy, htop, hbottom, hcols⟩ := h
  obtain ⟨y', z, hy', hz, htop', hbottom', hcols'⟩ := h'
  rw [hy, Option.some.injEq] at hy'
  subst hy'
  have hleft : y.left ≤ y.right := (hvalid y hy).2
  exact ⟨x, z, hx, hz, htop.trans htop', hbottom.trans hbottom', hcols.trans (hleft.trans hcols')⟩

/-! ## Cutting into runs -/

/-- The elements are cut into runs, none of which could be longer. -/
structure IsCut (es : List Element) (runs : List (List Element)) : Prop where
  /-- The runs one after the other are the elements, each once and in their order. -/
  flatten_eq : runs.flatten = es
  /-- No run is empty. -/
  ne_nil : ∀ run ∈ runs, run ≠ []
  /-- Each element of a run continues the one in front of it. -/
  continues : ∀ run ∈ runs, run.IsChain Continues
  /-- The first element of a run does not continue the last one of the run in front of it. -/
  parted : runs.IsChain fun before behind =>
    ∀ a ∈ before.getLast?, ∀ c ∈ behind.head?, ¬ Continues a c

/-- Two runs are parted where the last element of the first one and the first element of the second
one do not go together. -/
theorem parted_iff {before behind : List Element} (hbefore : before ≠ []) (hbehind : behind ≠ []) :
    (∃ ha hb, continuesRow (before.getLast ha) (behind.head hb) = false) ↔
      ∀ a ∈ before.getLast?, ∀ c ∈ behind.head?, ¬ Continues a c := by
  rw [List.getLast?_eq_some_getLast hbefore, List.head?_eq_some_head hbehind]
  simp [hbefore, hbehind, ← continuesRow_iff]

/-- The elements are cut into runs exactly where neighbours do not go together. -/
theorem isCut_iff : IsCut es runs ↔ es.splitBy continuesRow = runs := by
  have hchain : ∀ run : List Element,
      (run.IsChain fun a c => continuesRow a c = true) ↔ run.IsChain Continues := fun run =>
    List.IsChain.iff fun _ _ => continuesRow_iff
  have hparted : [] ∉ runs →
      ((runs.IsChain fun before behind =>
          ∃ ha hb, continuesRow (before.getLast ha) (behind.head hb) = false) ↔
        runs.IsChain fun before behind =>
          ∀ a ∈ before.getLast?, ∀ c ∈ behind.head?, ¬ Continues a c) := fun hne =>
    List.IsChain.iff_of_mem_imp fun _ _ hbefore hbehind =>
      parted_iff (ne_of_mem_of_not_mem hbefore hne) (ne_of_mem_of_not_mem hbehind hne)
  rw [List.splitBy_eq_iff]
  constructor
  · intro h
    have hne : [] ∉ runs := fun hnil => h.ne_nil [] hnil rfl
    exact ⟨h.flatten_eq.symm, hne, fun run hrun => (hchain run).2 (h.continues run hrun),
      (hparted hne).2 h.parted⟩
  · rintro ⟨hflatten, hne, hcontinues, hbetween⟩
    exact ⟨hflatten.symm, fun run hrun => ne_of_mem_of_not_mem hrun hne,
      fun run hrun => (hchain run).1 (hcontinues run hrun), (hparted hne).1 hbetween⟩

/-- What is cut where neighbours do not go together is a chain. -/
theorem isChain_of_mem_splitBy (h : run ∈ es.splitBy continuesRow) : run.IsChain Continues :=
  (isCut_iff.2 rfl).continues run h

/-- Several elements of which each continues the one in front of it are boxes. -/
theorem isSome_of_isChain (h : run.IsChain Continues) (hseveral : 2 ≤ run.length) :
    ∀ e ∈ run, e.boxBounds?.isSome = true := by
  induction run with
  | nil => simp
  | cons a run ih =>
    cases run with
    | nil => simp at hseveral
    | cons c run =>
      obtain ⟨⟨x, y, hx, hy, -⟩, hrest⟩ := List.isChain_cons_cons.1 h
      refine List.forall_mem_cons.2 ⟨by rw [hx]; rfl, ?_⟩
      -- The second element is the last one or has a third one behind it.
      cases run with
      | nil => simp [hy]
      | cons d run => exact ih hrest (by simp)

/-- In a run every element continues each one in front of it. -/
theorem pairwise_continues (h : run.IsChain Continues)
    (hvalid : ∀ e ∈ run, ∀ x, e.boxBounds? = some x → x.Valid) : run.Pairwise Continues := by
  induction run with
  | nil => exact .nil
  | cons a run ih =>
    have hrest := ih h.tail fun e he => hvalid e (List.mem_cons_of_mem a he)
    refine List.pairwise_cons.2 ⟨fun e he => ?_, hrest⟩
    cases run with
    | nil => simp at he
    | cons c run =>
      have hnext : Continues a c := (List.isChain_cons_cons.1 h).1
      rcases List.mem_cons.1 he with rfl | he
      · exact hnext
      · exact hnext.trans ((List.pairwise_cons.1 hrest).1 e he) (hvalid c (by simp))

/-! ## Rows in the place of runs -/

/-- The element takes the place of a run. -/
inductive Replaces (container : Bounds) : List Element → Element → Prop where
  /-- A single element stays as it is. -/
  | single (e : Element) : Replaces container [e] e
  /-- Several boxes are put together into a row of them. -/
  | row (run : List Element) (several : 2 ≤ run.length)
    (boxes : ∀ e ∈ run, e.boxBounds?.isSome = true) :
    Replaces container run (.row run (rowAlignment container run))

/-- A run that is cut out of elements is replaced by one element. -/
theorem exists_replaces (hne : run ≠ []) (hrun : run.IsChain Continues) :
    ∃ e, ofRun container run = [e] ∧ Replaces container run e := by
  match run, hne with
  | [e], _ => exact ⟨e, rfl, .single e⟩
  | a :: c :: rest, _ =>
    have hseveral : 2 ≤ (a :: c :: rest).length := by simp
    exact ⟨_, rfl, .row _ hseveral (isSome_of_isChain hrun hseveral)⟩

/-- Only a box can be continued, and a box is the single element of its run. -/
theorem Replaces.eq_singleton (h : Replaces container run e) (hbox : e.boxBounds?.isSome = true) :
    run = [e] := by
  cases h with
  | single => rfl
  | row => simp [boxBounds?] at hbox

/-- Elements in the place of runs that cannot be longer do not go together. -/
theorem isChain_not_continues (h : List.Forall₂ (Replaces container) runs es)
    (hparted : runs.IsChain fun before behind =>
      ∀ a ∈ before.getLast?, ∀ c ∈ behind.head?, ¬ Continues a c) :
    es.IsChain fun a c => ¬ Continues a c := by
  induction h with
  | nil => exact .nil
  | @cons before a runs es hbefore hrest ih =>
    cases hrest with
    | nil => exact .singleton a
    | @cons behind c runs es hbehind hrest =>
      obtain ⟨hfirst, hothers⟩ := List.isChain_cons_cons.1 hparted
      refine List.isChain_cons_cons.2 ⟨fun hcontinues => ?_, ih hothers⟩
      obtain ⟨x, y, hx, hy, -⟩ := id hcontinues
      rw [hbefore.eq_singleton (by rw [hx]; rfl), hbehind.eq_singleton (by rw [hy]; rfl)] at hfirst
      exact hfirst a rfl c rfl hcontinues

/-- Elements of which none continues the one in front of it stay as they are. -/
theorem gatherRows_of_isChain (h : es.IsChain fun a c => ¬ Continues a c) :
    gatherRows container es = es := by
  have hcut : IsCut es (es.map fun e => [e]) := by
    refine ⟨?_, ?_, ?_, ?_⟩
    · rw [← List.flatMap_def, List.flatMap_singleton']
    · simp
    · simp
    · rw [List.isChain_map]
      simpa using h
  rw [gatherRows, isCut_iff.1 hcut, List.flatMap_map]
  exact List.flatMap_singleton' es

/-- Without boxes there is nothing to put together. -/
theorem gatherRows_of_no_boxes (h : ∀ e ∈ es, e.boxBounds? = none) :
    gatherRows container es = es := by
  refine gatherRows_of_isChain (List.Pairwise.isChain ?_)
  refine List.pairwise_of_forall_mem_list fun a ha c _ => ?_
  rintro ⟨x, -, hx, -⟩
  rw [h a ha] at hx
  exact absurd hx (by simp)

/-- Putting boxes side by side into rows cuts the elements into runs that cannot be longer, for
which there is one way only, and replaces each run: a single element by itself, several boxes by a
row of them. In a row every box has the top and bottom of each one in front of it and begins where
that one ends or further right. Done again, it changes nothing. -/
theorem gatherRows_replaces_runs (container : Bounds) (es : List Element) :
    ∃ runs, IsCut es runs ∧ (∀ others, IsCut es others → others = runs) ∧
      List.Forall₂ (Replaces container) runs (gatherRows container es) ∧
      ((∀ e ∈ es, ∀ x, e.boxBounds? = some x → x.Valid) →
        ∀ run ∈ runs, run.Pairwise Continues) ∧
      ∀ again, gatherRows again (gatherRows container es) = gatherRows container es := by
  have hcut : IsCut es (es.splitBy continuesRow) := isCut_iff.2 rfl
  have hreplaced : List.Forall₂ (Replaces container) (es.splitBy continuesRow)
      (gatherRows container es) :=
    forall₂_flatMap fun run hrun => exists_replaces (hcut.ne_nil run hrun) (hcut.continues run hrun)
  refine ⟨es.splitBy continuesRow, hcut, fun others hothers => (isCut_iff.1 hothers).symm,
    hreplaced, fun hvalid run hrun => ?_, fun again => ?_⟩
  · refine pairwise_continues (hcut.continues run hrun) fun e he => hvalid e ?_
    rw [← hcut.flatten_eq]
    exact List.mem_flatten.2 ⟨run, hrun, he⟩
  · exact gatherRows_of_isChain (isChain_not_continues hreplaced hcut.parted)

/-- A blank line, three boxes of one height of which two share an edge, and a higher box that begins
on the right edge of the third one. -/
def edgeToEdge : List Element :=
  [.spacer ⟨1, 1⟩, .box ⟨2, 1, 4, 3⟩ none [], .box ⟨2, 3, 4, 5⟩ none [], .box ⟨2, 7, 4, 9⟩ none [],
    .box ⟨2, 9, 5, 11⟩ (some "higher") []]

/-- The three boxes of one height make up a row, and each begins where the ones in front of it end
or further right. -/
theorem gatherRows_replaces_runs_edge_to_edge :
    (∃ runs, IsCut edgeToEdge runs ∧
        List.Forall₂ (Replaces ⟨0, 0, 6, 12⟩) runs (gatherRows ⟨0, 0, 6, 12⟩ edgeToEdge) ∧
        ∀ run ∈ runs, run.Pairwise Continues) ∧
      gatherRows ⟨0, 0, 6, 12⟩ edgeToEdge =
        [.spacer ⟨1, 1⟩,
          .row [.box ⟨2, 1, 4, 3⟩ none [], .box ⟨2, 3, 4, 5⟩ none [], .box ⟨2, 7, 4, 9⟩ none []]
            (.ofSpan 1 9 ⟨0, 0, 6, 12⟩),
          .box ⟨2, 9, 5, 11⟩ (some "higher") []] := by
  have hvalid : ∀ e ∈ edgeToEdge, ∀ x, e.boxBounds? = some x → x.Valid := by
    simp [edgeToEdge, boxBounds?, Bounds.Valid]
  obtain ⟨runs, hcut, -, hreplaced, hpairwise, -⟩ :=
    gatherRows_replaces_runs ⟨0, 0, 6, 12⟩ edgeToEdge
  exact ⟨⟨runs, hcut, hreplaced, hpairwise hvalid⟩, rfl⟩

end Element

end Wireframe
