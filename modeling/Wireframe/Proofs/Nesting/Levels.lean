import Mathlib.Data.List.Nodup
import Wireframe.Proofs.Nesting.Forest

/-!
# Levels of boxes

`Leveled` says how many steps a box is from the root of its tree, going from a parent to its child.
The levels that are worked out for a list of boxes, larger ones first, are exactly these
(`mem_levels_iff`), since a parent is larger than its children and has its level before they get
theirs. Below a root, the box that is picked is the first in the list of those that are as deep as
any other (`deepest_spec`).
-/

namespace Wireframe

namespace Nesting

variable {boxes : List Box} {xs nested : List Nested} {n : Nested} {l m : Level}

/-! ## Every box gets a level -/

/-- Each box gets one level, in their order. -/
theorem map_nested_addLevels (known : List Level) (xs : List Nested) :
    (xs.foldl addLevel known).map (·.nested) = known.map (·.nested) ++ xs := by
  induction xs generalizing known with
  | nil => simp
  | cons n xs ih =>
    rw [List.foldl_cons, ih, addLevel]
    split <;> simp

/-- The boxes that have levels are those of the list. -/
theorem map_nested_levels (nested : List Nested) :
    (levels nested).map (·.nested) = sortBy Nested.largerFirst nested :=
  map_nested_addLevels [] _

/-- Levels that are known stay known. -/
theorem mem_addLevels_of_mem {known : List Level} (h : l ∈ known) :
    l ∈ xs.foldl addLevel known := by
  induction xs generalizing known with
  | nil => exact h
  | cons x xs ih =>
    refine ih ?_
    rw [addLevel]
    split <;> exact List.mem_append_left _ h

/-- A box without a parent is at the root of its tree. -/
theorem root_mem_levels (hn : n ∈ nested) (hparent : n.parent = none) :
    ⟨n, n.index, 0⟩ ∈ levels nested := by
  have hsorted : n ∈ sortBy Nested.largerFirst nested := mem_sortBy.2 hn
  obtain ⟨before, after, heq⟩ := List.append_of_mem hsorted
  rw [levels, heq, List.foldl_append, List.foldl_cons]
  refine mem_addLevels_of_mem ?_
  rw [addLevel, hparent]
  exact List.mem_append_right _ (List.mem_singleton_self _)

/-! ## Steps from a root -/

/-- How far a box is from the root of its tree, counted in steps from a parent to its child. -/
inductive Leveled (nested : List Nested) : Level → Prop where
  /-- A box without a parent is at a root. -/
  | root {n : Nested} (hn : n ∈ nested) (hparent : n.parent = none) :
    Leveled nested ⟨n, n.index, 0⟩
  /-- A box is one step further from the root than its parent. -/
  | step {n : Nested} {above : Level} (hn : n ∈ nested) (habove : Leveled nested above)
    (hparent : n.parent = some above.nested.index) :
    Leveled nested ⟨n, above.root, above.depth + 1⟩

/-- What has a level is one of the boxes. -/
theorem Leveled.mem (h : Leveled nested l) : l.nested ∈ nested := by
  cases h with
  | root hn hparent => exact hn
  | step hn habove hparent => exact hn

/-- A box has one level. -/
theorem Leveled.unique (hnodup : (nested.map (·.index)).Nodup) (hl : Leveled nested l)
    (hm : Leveled nested m) (h : l.nested.index = m.nested.index) : l = m := by
  have hsame : ∀ {a b : Nested}, a ∈ nested → b ∈ nested → a.index = b.index → a = b :=
    fun ha hb => List.inj_on_of_nodup_map hnodup ha hb
  induction hl generalizing m with
  | root hn hparent =>
    cases hm with
    | root hn' _ => rw [hsame hn hn' h]
    | step hn' _ hparent' =>
      rw [← hsame hn hn' h, hparent] at hparent'
      exact absurd hparent' (Option.some_ne_none _).symm
  | step hn _ hparent ih =>
    cases hm with
    | root hn' hparent' =>
      rw [← hsame hn hn' h, hparent] at hparent'
      exact absurd hparent' (Option.some_ne_none _)
    | step hn' habove' hparent' =>
      obtain rfl := hsame hn hn' h
      rw [hparent, Option.some.injEq] at hparent'
      rw [ih habove' hparent']

/-- The levels of further boxes are right, if their parents come before them. -/
theorem leveled_of_mem_addLevels {known : List Level} (hranked : Ranked xs)
    (hxs : ∀ n ∈ xs, n ∈ nested) (hknown : ∀ l ∈ known, Leveled nested l)
    (hclosed : ∀ n ∈ xs, ∀ p, n.parent = some p →
      (∃ l ∈ known, l.nested.index = p) ∨ ∃ m ∈ xs, m.index = p) :
    ∀ l ∈ xs.foldl addLevel known, Leveled nested l := by
  induction xs generalizing known with
  | nil => exact hknown
  | cons n xs ih =>
    have hn := hxs n List.mem_cons_self
    obtain ⟨l, hadd, hl, rfl⟩ : ∃ l, addLevel known n = known ++ [l] ∧ Leveled nested l ∧
        l.nested = n := by
      cases hparent : n.parent with
      | none => exact ⟨_, by rw [addLevel, hparent]; rfl, .root hn hparent, rfl⟩
      | some p =>
        -- The parent is none of the boxes that are still to come.
        have hmem : ∃ l ∈ known, l.nested.index = p := by
          refine (hclosed n List.mem_cons_self p hparent).resolve_right ?_
          rintro ⟨m, hm, rfl⟩
          rcases List.mem_cons.1 hm with rfl | hm
          · exact hranked.parent_ne m List.mem_cons_self hparent
          · exact (List.pairwise_cons.1 hranked.parent_before).1 m hm hparent
        cases hfind : known.find? fun l => decide (l.nested.index = p) with
        | none =>
          obtain ⟨l, hl, hindex⟩ := hmem
          exact absurd hindex (by simpa using List.find?_eq_none.1 hfind l hl)
        | some above =>
          have hindex : above.nested.index = p := of_decide_eq_true (List.find?_some hfind :)
          refine ⟨⟨n, above.root, above.depth + 1⟩, ?_, ?_, rfl⟩
          · rw [addLevel, hparent, Option.bind_some, hfind]
          · exact .step hn (hknown above (List.mem_of_find?_eq_some hfind)) (by rw [hindex, hparent])
    rw [List.foldl_cons, hadd]
    refine ih hranked.tail (fun m hm => hxs m (List.mem_cons_of_mem _ hm)) ?_ ?_
    · intro m hm
      rcases List.mem_append.1 hm with hm | hm
      · exact hknown m hm
      · rw [List.mem_singleton.1 hm]
        exact hl
    · intro m hm p hparent
      rcases hclosed m (List.mem_cons_of_mem _ hm) p hparent with ⟨k, hk, hindex⟩ | ⟨k, hk, hindex⟩
      · exact .inl ⟨k, List.mem_append_left _ hk, hindex⟩
      · rcases List.mem_cons.1 hk with rfl | hk
        · exact .inl ⟨l, List.mem_append_right _ (List.mem_singleton_self l), hindex⟩
        · exact .inr ⟨k, hk, hindex⟩

/-- The levels of a list of boxes are the numbers of steps from the roots. -/
theorem mem_levels_iff (hvalid : ∀ box ∈ boxes, box.bounds.Valid) :
    l ∈ levels (ofBoxes boxes) ↔ Leveled (ofBoxes boxes) l := by
  have hleveled : ∀ m ∈ levels (ofBoxes boxes), Leveled (ofBoxes boxes) m := by
    refine leveled_of_mem_addLevels (ranked_sortBy hvalid) (fun n hn => mem_sortBy.1 hn)
      (fun m hm => absurd hm List.not_mem_nil) fun n hn p hparent => .inr ?_
    obtain ⟨m, hm, hindex⟩ := exists_parent (mem_sortBy.1 hn) hparent
    exact ⟨m, mem_sortBy.2 hm, hindex⟩
  refine ⟨hleveled l, fun hl => ?_⟩
  have hmem : l.nested ∈ (levels (ofBoxes boxes)).map (·.nested) := by
    rw [map_nested_levels]
    exact mem_sortBy.2 hl.mem
  obtain ⟨m, hm, heq⟩ := List.mem_map.1 hmem
  rw [← (hleveled m hm).unique (nodup_index_ofBoxes boxes) hl (by rw [heq])]
  exact hm

/-! ## The deepest box below a root -/

/-- The box is deeper than another, or as deep and not behind it in the list. -/
def DeeperOrFirst (l m : Level) : Prop :=
  m.depth < l.depth ∨ (m.depth = l.depth ∧ l.nested.index ≤ m.nested.index)

/-- Of two boxes the deeper one is chosen, and the first one if they are equally deep. -/
theorem chooses_deeper : Chooses deeper DeeperOrFirst where
  refl := fun _ => .inr ⟨rfl, Nat.le_refl _⟩
  trans := fun hab hbc => by
    unfold DeeperOrFirst at *
    omega
  first := fun _ => rfl
  next := fun old candidate => by
    unfold DeeperOrFirst
    rw [deeper]
    split
    · exact .inr ⟨rfl, by omega⟩
    · exact .inl ⟨rfl, by omega⟩

/-- The deepest box below a root is below it, and is deeper than the others there or the first of
those that are as deep. -/
theorem deepest_spec {ls : List Level} {root : Nested} (h : deepest ls root = some l) :
    (l ∈ ls ∧ l.root = root.index) ∧
      ∀ m ∈ ls, m.root = root.index → DeeperOrFirst l m := by
  obtain ⟨hmem, hall⟩ := chooses_deeper.of_foldl_eq_some h
  obtain ⟨hmem, hroot⟩ := List.mem_filter.1 hmem
  refine ⟨⟨hmem, of_decide_eq_true hroot⟩, fun m hm hroot => ?_⟩
  exact hall m (List.mem_filter.2 ⟨hm, decide_eq_true hroot⟩)

/-- The deepest box below a root is one of the boxes. -/
theorem mem_of_deepest {root : Nested} (h : deepest (levels nested) root = some l) :
    l.nested ∈ nested := by
  have hmem := List.mem_map_of_mem (f := (·.nested)) (deepest_spec h).1.1
  rw [map_nested_levels] at hmem
  exact mem_sortBy.1 hmem

/-- Some box below a root is the deepest. -/
theorem isSome_deepest (hn : n ∈ roots nested) : (deepest (levels nested) n).isSome = true := by
  obtain ⟨hn, hparent⟩ := List.mem_filter.1 (mem_sortBy.1 hn)
  have hroot := root_mem_levels hn (Option.isNone_iff_eq_none.1 hparent)
  rw [Option.isSome_iff_ne_none, deepest, ne_eq, chooses_deeper.foldl_eq_none_iff]
  exact List.ne_nil_of_mem (List.mem_filter.2 ⟨hroot, decide_eq_true rfl⟩)

end Nesting

end Wireframe
