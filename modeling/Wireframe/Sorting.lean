/-!
# Stable sorting

Sorting by insertion under a comparison. Entries that compare equal both ways keep their order. The
best entry of a list is found by going through it once.
-/

namespace Wireframe

variable {α : Type}

/-- An entry put in front of the first entry that it may stand before. -/
def insertSorted (le : α → α → Bool) (a : α) : List α → List α
  | [] => [a]
  | b :: rest => if le a b then a :: b :: rest else b :: insertSorted le a rest

/-- The entries sorted by a comparison. -/
def sortBy (le : α → α → Bool) : List α → List α
  | [] => []
  | a :: rest => insertSorted le a (sortBy le rest)

/-- Insertion adds the entry once. -/
theorem insertSorted_perm (le : α → α → Bool) (a : α) (xs : List α) :
    (insertSorted le a xs).Perm (a :: xs) := by
  induction xs with
  | nil => exact .refl _
  | cons b xs ih =>
    unfold insertSorted
    split
    · exact .refl _
    · exact (ih.cons b).trans (.swap a b xs)

/-- Sorting keeps every entry once. -/
theorem sortBy_perm (le : α → α → Bool) (xs : List α) : (sortBy le xs).Perm xs := by
  induction xs with
  | nil => exact .refl _
  | cons a xs ih => exact (insertSorted_perm le a _).trans (ih.cons a)

/-- Sorting keeps the entries. -/
@[simp] theorem mem_sortBy {le : α → α → Bool} {a : α} {xs : List α} :
    a ∈ sortBy le xs ↔ a ∈ xs :=
  (sortBy_perm le xs).mem_iff

/-- Insertion into sorted entries gives sorted entries. -/
theorem pairwise_insertSorted {le : α → α → Bool} (total : ∀ a b, le a b = true ∨ le b a = true)
    (trans : ∀ a b c, le a b = true → le b c = true → le a c = true) (a : α) {xs : List α}
    (h : xs.Pairwise fun b c => le b c = true) :
    (insertSorted le a xs).Pairwise fun b c => le b c = true := by
  induction xs with
  | nil => simp [insertSorted]
  | cons b xs ih =>
    obtain ⟨hb, hxs⟩ := List.pairwise_cons.1 h
    unfold insertSorted
    split
    · next hab =>
      refine List.pairwise_cons.2 ⟨fun c hc => ?_, h⟩
      rcases List.mem_cons.1 hc with rfl | hc
      · exact hab
      · exact trans _ _ _ hab (hb c hc)
    · next hab =>
      refine List.pairwise_cons.2 ⟨fun c hc => ?_, ih hxs⟩
      -- What stands behind `b` now is the new entry or was there before.
      rcases List.mem_cons.1 ((insertSorted_perm le a xs).mem_iff.1 hc) with rfl | hc
      · exact (total _ _).resolve_left hab
      · exact hb c hc

/-- The sorted entries follow the comparison. -/
theorem pairwise_sortBy {le : α → α → Bool} (total : ∀ a b, le a b = true ∨ le b a = true)
    (trans : ∀ a b c, le a b = true → le b c = true → le a c = true) (xs : List α) :
    (sortBy le xs).Pairwise fun a b => le a b = true := by
  induction xs with
  | nil => exact .nil
  | cons a xs ih => exact pairwise_insertSorted total trans a ih

/-- What is sorted already stays as it is. -/
theorem sortBy_of_pairwise {le : α → α → Bool} {xs : List α}
    (h : xs.Pairwise fun a b => le a b = true) : sortBy le xs = xs := by
  induction xs with
  | nil => rfl
  | cons a xs ih =>
    obtain ⟨ha, hxs⟩ := List.pairwise_cons.1 h
    rw [sortBy, ih hxs]
    cases xs with
    | nil => rfl
    | cons b xs => simp [insertSorted, ha b (by simp)]

/-! ## The best entry -/

/-- A choice between the best entry so far, if there is one, and the next entry. It takes one that
is as good as the other. -/
structure Chooses (better : Option α → α → Option α) (Best : α → α → Prop) : Prop where
  /-- An entry is as good as itself. -/
  refl : ∀ a, Best a a
  /-- What is as good as something is as good as what this is as good as. -/
  trans : ∀ {a b c}, Best a b → Best b c → Best a c
  /-- The first entry is the best so far. -/
  first : ∀ a, better none a = some a
  /-- The best entry so far stays, or the next one takes its place. -/
  next : ∀ old a, (better (some old) a = some old ∧ Best old a) ∨
    (better (some old) a = some a ∧ Best a old)

namespace Chooses

variable {better : Option α → α → Option α} {Best : α → α → Prop} {xs : List α}

/-- What is chosen in the end is one of those that were there, and as good as all of them. -/
theorem exists_foldl (h : Chooses better Best) (xs : List α) (best : α) :
    ∃ found, xs.foldl better (some best) = some found ∧ found ∈ best :: xs ∧
      ∀ a ∈ best :: xs, Best found a := by
  induction xs generalizing best with
  | nil => exact ⟨best, rfl, List.mem_cons_self, by simpa using h.refl best⟩
  | cons x xs ih =>
    -- One of the two is kept, and it is as good as the other.
    obtain ⟨kept, hkept, hmem, hold, hnew⟩ : ∃ kept, better (some best) x = some kept ∧
        (kept = best ∨ kept = x) ∧ Best kept best ∧ Best kept x := by
      rcases h.next best x with ⟨heq, hbest⟩ | ⟨heq, hbest⟩
      · exact ⟨best, heq, .inl rfl, h.refl best, hbest⟩
      · exact ⟨x, heq, .inr rfl, hbest, h.refl x⟩
    obtain ⟨found, hfound, hin, hall⟩ := ih kept
    have hfoundKept := hall kept List.mem_cons_self
    refine ⟨found, by rw [List.foldl_cons, hkept, hfound], ?_, fun a ha => ?_⟩
    · simp only [List.mem_cons] at hin ⊢
      rcases hin with rfl | hin
      · exact hmem.imp_right .inl
      · exact .inr (.inr hin)
    · rcases List.mem_cons.1 ha with rfl | ha
      · exact h.trans hfoundKept hold
      · rcases List.mem_cons.1 ha with rfl | ha
        · exact h.trans hfoundKept hnew
        · exact hall a (List.mem_cons_of_mem kept ha)

/-- Nothing is chosen only if there is nothing to choose from. -/
theorem foldl_eq_none_iff (h : Chooses better Best) : xs.foldl better none = none ↔ xs = [] := by
  cases xs with
  | nil => simp
  | cons x xs =>
    obtain ⟨found, hfound, -⟩ := h.exists_foldl xs x
    rw [List.foldl_cons, h.first, hfound]
    simp

/-- What is chosen is an entry that is as good as all others. -/
theorem of_foldl_eq_some (h : Chooses better Best) {found : α}
    (hfound : xs.foldl better none = some found) : found ∈ xs ∧ ∀ a ∈ xs, Best found a := by
  cases xs with
  | nil => simp at hfound
  | cons x xs =>
    rw [List.foldl_cons, h.first] at hfound
    obtain ⟨found', hfound', hmem, hall⟩ := h.exists_foldl xs x
    rw [hfound, Option.some.injEq] at hfound'
    rw [hfound']
    exact ⟨hmem, hall⟩

end Chooses

end Wireframe
