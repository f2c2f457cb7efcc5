import Wireframe.Proofs.Checked.Grid
import Wireframe.Proofs.Difference

/-!
# Texts are compared without a failure

A comparison, step by step, with each step failing outside of its domain: the last of the columns
that get a caret is taken, each caret is set in a line of blanks that ends there, and each row that is
shown is taken from the pairs of lines. It never fails and gives what comparing gives (`lines_eq`),
since lines that differ have a column for a caret and only rows of the texts are shown.
-/

namespace Wireframe.Checked

open Difference

variable {α : Type}

/-! ## Carets -/

/-- The list with the entry at a place replaced. -/
def replace (xs : List α) (i : Nat) (x : α) : Except Failure (List α) :=
  if i < xs.length then return xs.set i x else .error (.offset xs.length i)

/-- The list with the entries at several places replaced, one after the other. -/
def replaceAll (xs : List α) (x : α) : List Nat → Except Failure (List α)
  | [] => return xs
  | i :: rest => do
    let replaced ← replace xs i x
    replaceAll replaced x rest

/-- Entries are replaced without a failure at places in the list, and nowhere else. -/
theorem exists_replaceAll (xs : List α) (x : α) {places : List Nat}
    (h : ∀ i ∈ places, i < xs.length) :
    ∃ replaced, replaceAll xs x places = .ok replaced ∧ replaced.length = xs.length ∧
      ∀ j, j < xs.length → replaced[j]? = if j ∈ places then some x else xs[j]? := by
  induction places generalizing xs with
  | nil => exact ⟨xs, rfl, rfl, fun j _ => by simp⟩
  | cons i rest ih =>
    have hi : i < xs.length := h i List.mem_cons_self
    have hset : replace xs i x = .ok (xs.set i x) := if_pos hi
    obtain ⟨replaced, hreplaced, hlength, hentries⟩ := ih (xs.set i x) fun j hj => by
      rw [List.length_set]
      exact h j (List.mem_cons_of_mem i hj)
    rw [List.length_set] at hlength hentries
    refine ⟨replaced, ?_, hlength, fun j hj => ?_⟩
    · rw [replaceAll, hset, ok_bind, hreplaced]
    · rw [hentries j hj, List.getElem?_set]
      by_cases hrest : j ∈ rest
      · simp [hrest]
      · by_cases hfirst : i = j
        · simp [hfirst, hj]
        · simp [hrest, hfirst, Ne.symm hfirst]

/-- A line with a caret under each of some columns: blanks up to the last one, of which those in the
columns are replaced. -/
def carets (columns : List Nat) : Except Failure Line := do
  let last ← entry columns (-1)
  let marks ← replaceAll (List.replicate (last + 1) ' ') '^' columns
  return List.replicate gutter ' ' ++ marks

/-- Carets are set without a failure if there is a column for one. -/
theorem carets_eq {columns : List Nat} (hne : columns ≠ []) (hordered : columns.Pairwise (· < ·)) :
    carets columns = .ok (Difference.carets columns) := by
  obtain ⟨last, hlast⟩ : ∃ last, columns.getLast? = some last :=
    ⟨_, List.getLast?_eq_some_getLast hne⟩
  -- No column stands behind the last one, so the blanks reach far enough.
  have hreach : ∀ c ∈ columns, c < (List.replicate (last + 1) ' ').length := by
    intro c hc
    rw [List.length_replicate]
    exact Nat.lt_succ_of_le (le_getLast? hordered hlast hc)
  obtain ⟨marks, hmarks, hlength, hentries⟩ :=
    exists_replaceAll (List.replicate (last + 1) ' ') '^' hreach
  rw [List.length_replicate] at hlength hentries
  have hline : marks = (List.range (last + 1)).map fun c => if c ∈ columns then '^' else ' ' := by
    apply List.ext_getElem?
    intro c
    by_cases hc : c < last + 1
    · rw [hentries c hc, List.getElem?_map, List.getElem?_range hc, List.getElem?_replicate,
        if_pos hc, Option.map_some]
      split
      · rfl
      · rfl
    · rw [List.getElem?_eq_none (by omega), List.getElem?_eq_none (by simp; omega)]
  rw [carets, entry_last hlast, ok_bind, hmarks, ok_bind, pure_eq, Difference.carets, hlast, hline]
  rfl

/-! ## Rows -/

/-- The lines that show a pair of different lines. -/
def changeLines (row : Nat) (before after : Line) : Except Failure (List Line) := do
  let columns := differingColumns before after
  let marks ← carets columns
  return [ rowNumber row ++ ": - |".toList ++ before ++ ['|'],
    "     + |".toList ++ after ++ ['|'],
    marks,
    ("     Diff at col(s): " ++ listed ((columns.take 5).map (· + 1)) ++
      if 5 < columns.length then "..." else "").toList ]

/-- The lines that show a pair of lines. -/
def rowLines (row : Nat) (pair : Line × Line) : Except Failure (List Line) :=
  if pair.1 = pair.2 then return [rowNumber row ++ ":   ".toList ++ pair.2]
  else changeLines row pair.1 pair.2

/-- A pair of lines is shown without a failure. -/
theorem rowLines_eq (row : Nat) (pair : Line × Line) :
    rowLines row pair = .ok (Difference.rowLines row pair) := by
  unfold rowLines Difference.rowLines
  split
  · rfl
  · next hdiffer =>
    have hmarks := carets_eq (differingColumns_ne_nil hdiffer)
      (pairwise_differingColumns pair.1 pair.2)
    unfold changeLines
    dsimp only
    rw [hmarks]
    rfl

/-- The lines that show some rows in growing order, where `previous` is the last row shown before,
`-1` at the beginning. -/
def body (pairs : List (Line × Line)) (previous : Int) : List Nat → Except Failure (List Line)
  | [] => return if previous < pairs.length - 1 then [gap] else []
  | row :: rest => do
    let pair ← entry pairs row
    let shown ← rowLines row pair
    let behind ← body pairs row rest
    return (if (row : Int) ≠ previous + 1 then [gap] else []) ++ shown ++ behind

/-- Rows of the texts are shown without a failure. -/
theorem body_eq {pairs : List (Line × Line)} {rows : List Nat}
    (hrows : ∀ row ∈ rows, row < pairs.length) (next : Nat) :
    body pairs (next - 1) rows = .ok (Difference.body pairs next rows) := by
  induction rows generalizing next with
  | nil =>
    have hend : ((next : Int) - 1 < pairs.length - 1) ↔ next < pairs.length := by omega
    rw [body, Difference.body, pure_eq]
    simp only [hend]
  | cons row rest ih =>
    have hrow : row < pairs.length := hrows row List.mem_cons_self
    have hpair : pairs[row]? = some pairs[row] := List.getElem?_eq_getElem hrow
    have hnext : ((row : Int) ≠ (next : Int) - 1 + 1) ↔ row ≠ next := by omega
    have hbehind : body pairs row rest = .ok (Difference.body pairs (row + 1) rest) := by
      rw [← ih (fun r hr => hrows r (List.mem_cons_of_mem row hr)) (row + 1)]
      congr 1
      omega
    rw [body, entry_eq hpair, ok_bind, rowLines_eq, ok_bind, hbehind, ok_bind, pure_eq,
      Difference.body, hpair]
    simp only [hnext]
    rfl

/-! ## Comparisons -/

/-- The lines of a comparison. -/
def lines (before after : String) (context : Int) (notes : List (Int × List String)) :
    Except Failure (List Line) := do
  let pairs := linePairs before after
  let changed := changedRows pairs
  if changed = [] then return heading ++ ["No differences found.".toList]
  else
    let shown ← body pairs (-1) (shownRows changed pairs.length context)
    return heading ++
      [("Found " ++ Text.decimal changed.length ++ " differing line(s)").toList, []] ++ shown ++
        noteLines notes

/-- Texts are compared without a failure. -/
theorem lines_eq (before after : String) (context : Int) (notes : List (Int × List String)) :
    lines before after context notes = .ok (Difference.lines before after context notes) := by
  have hbody : body (linePairs before after) (-1) (shownRows (changedRows (linePairs before after))
      (linePairs before after).length context) = .ok (Difference.body (linePairs before after) 0
        (shownRows (changedRows (linePairs before after)) (linePairs before after).length
          context)) :=
    body_eq (fun row hrow => List.mem_range.1 (List.mem_filter.1 hrow).1) 0
  unfold lines Difference.lines
  dsimp only
  rw [hbody]
  split
  · rfl
  · rfl

end Wireframe.Checked
