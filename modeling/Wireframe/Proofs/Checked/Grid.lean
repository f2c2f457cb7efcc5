import Wireframe.Diagnostic.Message
import Wireframe.Proofs.Grid.Index
import Wireframe.Proofs.Grid.Run

/-!
# Steps that may fail

Reading a drawing takes steps that are impossible outside of their domain: an entry of a list is
taken by its offset, a rectangle is made of four edges, a loop has to come to an end. Here such a
step fails outside of its domain, and what is made of such steps fails with the first of them. The
cells of a grid are read without a failure (`cell_eq`), and a walk ends (`scan_eq`).
-/

namespace Wireframe

/-- Why a step is impossible. -/
inductive Failure where
  /-- The edges of a rectangle stand the wrong way round. -/
  | edges (e : InvalidBounds)
  /-- A list has no entry at an offset. -/
  | offset (length : Nat) (i : Int)
  /-- A loop has not ended after the rounds that it was given. -/
  | endless
  /-- A graph cannot be put in order. -/
  | unordered
  /-- A graph does not have a node. -/
  | node
  /-- Nothing is kept under a key. -/
  | key
  /-- Nothing has a largest entry. -/
  | largest
  /-- Zero divides nothing. -/
  | zero
  /-- A character does not occur in a line. -/
  | character (c : Char)
  /-- An element of this kind has no such field. -/
  | field
  /-- A detail of a diagnostic is missing. -/
  | detail (e : MissingDetail)

namespace Checked

variable {α β : Type}

/-- A step that succeeds hands its result on. -/
@[simp] theorem ok_bind (a : α) (f : α → Except Failure β) : (Except.ok a >>= f) = f a := rfl

/-- Handing on a result succeeds. -/
@[simp] theorem pure_eq (a : α) : (pure a : Except Failure α) = .ok a := rfl

/-- Steps for all entries of a list succeed if each of them does. -/
theorem mapM_eq_ok_filterMap {f : α → Except Failure β} {g : α → Option β} {xs : List α}
    (h : ∀ x ∈ xs, ∃ y, f x = .ok y ∧ g x = some y) : xs.mapM f = .ok (xs.filterMap g) := by
  induction xs with
  | nil => rfl
  | cons x xs ih =>
    obtain ⟨y, hf, hg⟩ := h x List.mem_cons_self
    rw [List.mapM_cons, hf, ih fun z hz => h z (List.mem_cons_of_mem x hz),
      List.filterMap_cons_some hg]
    rfl

/-- The same with the results given by a function. -/
theorem mapM_eq_ok {f : α → Except Failure β} {g : α → β} {xs : List α}
    (h : ∀ x ∈ xs, f x = .ok (g x)) : xs.mapM f = .ok (xs.map g) := by
  rw [← List.filterMap_eq_map]
  exact mapM_eq_ok_filterMap fun x hx => ⟨g x, h x hx, rfl⟩

/-- The same for steps that are taken for something about each entry. -/
theorem mapM_map_eq_ok {γ : Type} {f : β → Except Failure γ} {h : α → β} {g : α → γ} {xs : List α}
    (hstep : ∀ x ∈ xs, f (h x) = .ok (g x)) : (xs.map h).mapM f = .ok (xs.map g) := by
  rw [List.mapM_map]
  exact mapM_eq_ok hstep

/-! ## Entries, keys and rectangles -/

/-- The entry of a list at an offset. -/
def entry (xs : List α) (i : Int) : Except Failure α :=
  match Text.entry? xs i with
  | some x => .ok x
  | none => .error (.offset xs.length i)

/-- An entry that is there is found. -/
theorem entry_eq {xs : List α} {k : Nat} {x : α} (h : xs[k]? = some x) : entry xs k = .ok x := by
  have hentry : Text.entry? xs (k : Int) = some x := by
    rw [Text.entry?_of_nonneg xs (Int.natCast_nonneg k), Int.toNat_natCast, h]
  rw [entry, hentry]

/-- The last entry is found from the end. -/
theorem entry_last {xs : List α} {x : α} (h : xs.getLast? = some x) : entry xs (-1) = .ok x := by
  have hne : xs.length ≠ 0 := by
    intro hzero
    rw [List.eq_nil_of_length_eq_zero hzero] at h
    simp at h
  have hoffset : Text.offset? xs.length (-1) = some (xs.length - 1) := by
    unfold Text.offset? Text.clipOffset
    rw [if_neg (by omega), if_pos (by omega)]
    congr 1
    omega
  have hentry : Text.entry? xs (-1) = some x := by
    rw [Text.entry?, hoffset, Option.bind_some, ← List.getLast?_eq_getElem?, h]
  rw [entry, hentry]

/-- What is kept under a key. -/
def value {κ : Type} [BEq κ] (xs : List (κ × α)) (key : κ) : Except Failure α :=
  match xs.lookup key with
  | some x => .ok x
  | none => .error .key

/-- What is kept under a key is found. -/
theorem value_eq {κ : Type} [BEq κ] {xs : List (κ × α)} {key : κ} {x : α}
    (h : xs.lookup key = some x) : value xs key = .ok x := by
  rw [value, h]

/-- The rectangle with the given edges. -/
def rectangle (top left bottom right : Int) : Except Failure Bounds :=
  (Bounds.ofEdges top left bottom right).mapError .edges

/-- Edges that stand the right way round make a rectangle. -/
theorem rectangle_eq {b : Bounds} (h : b.Valid) :
    rectangle b.top b.left b.bottom b.right = .ok b := by
  have hvalid : (⟨b.top, b.left, b.bottom, b.right⟩ : Bounds).Valid := h
  unfold rectangle Bounds.ofEdges
  rw [if_pos hvalid]
  rfl

/-- A rectangle in a text that has `rows` more lines in front. -/
def shiftedBounds (rows : Int) (b : Bounds) : Except Failure Bounds :=
  rectangle (b.top + rows) b.left (b.bottom + rows) b.right

/-- A rectangle stays one when it is moved. -/
theorem shiftedBounds_eq {b : Bounds} (h : b.Valid) (rows : Int) :
    shiftedBounds rows b = .ok (b.shifted rows) :=
  rectangle_eq ((b.valid_shifted rows).2 h)

/-! ## Cells -/

variable {g : Grid} {heading : Heading} {accept : Cell → Bool} {p : Position}

/-- The cell at a position, if the position lies in the grid. -/
def cell (g : Grid) (p : Position) : Except Failure (Option Cell) := do
  if 0 ≤ p.row ∧ p.row < g.height ∧ 0 ≤ p.col ∧ p.col < g.width then
    let row ← entry g.rows p.row
    let found ← entry row p.col
    return some found
  else return none

/-- Reading the cell at a position succeeds, in the grid and outside. -/
theorem cell_eq (g : Grid) (p : Position) : cell g p = .ok (g.get? p) := by
  unfold cell
  split
  · next hin =>
    obtain ⟨c, hc⟩ := Option.isSome_iff_exists.1
      (Grid.get?_isSome hin.1 hin.2.1 hin.2.2.1 hin.2.2.2)
    rw [hc]
    unfold Grid.get? at hc
    rw [if_pos ⟨hin.1, hin.2.2.1⟩] at hc
    obtain ⟨row, hrow, hcell⟩ := Option.bind_eq_some_iff.1 hc
    have hrow' := entry_eq hrow
    have hcell' := entry_eq hcell
    rw [Int.toNat_of_nonneg hin.1] at hrow'
    rw [Int.toNat_of_nonneg hin.2.2.1] at hcell'
    rw [hrow', ok_bind, hcell', ok_bind, pure_eq]
  · next hout =>
    have hnone : g.get? p = none := by
      refine Option.eq_none_iff_forall_ne_some.2 fun c hc => hout ?_
      exact Grid.get?_eq_some_bounds hc
    rw [hnone, pure_eq]

/-- Whether a cell of the given kind stands at a position. -/
def cellIs (g : Grid) (p : Position) (kind : Cell.Kind) : Except Failure Bool := do
  match ← cell g p with
  | some found => return decide (found.kind = kind)
  | none => return false

/-- Asking for the kind of a cell succeeds. -/
theorem cellIs_eq (g : Grid) (p : Position) (kind : Cell.Kind) :
    cellIs g p kind = .ok (g.cellIs p kind) := by
  rw [cellIs, cell_eq, ok_bind, Grid.cellIs]
  cases g.get? p <;> rfl

/-- The characters of a part of a row. -/
def rowChars (g : Grid) (row start : Int) (stop : Option Int) : Except Failure Line := do
  if 0 ≤ row ∧ row < g.height then
    let cells ← entry g.rows row
    return (Text.slice cells start stop).map Cell.toChar
  else return []

/-- Reading a part of a row succeeds. -/
theorem rowChars_eq (g : Grid) (row start : Int) (stop : Option Int) :
    rowChars g row start stop = .ok (g.rowChars row start stop) := by
  have hheight : g.height = g.rows.length := rfl
  unfold rowChars Grid.rowChars
  split
  · next hin =>
    have hlt : row.toNat < g.rows.length := by omega
    have hentry := entry_eq (List.getElem?_eq_getElem hlt)
    rw [Int.toNat_of_nonneg hin.1] at hentry
    rw [hentry, ok_bind, if_pos hin.1, List.getElem?_eq_getElem hlt, pure_eq]
  · next hout =>
    split
    · next hrow =>
      have hnone : g.rows[row.toNat]? = none := List.getElem?_eq_none (by omega)
      rw [hnone, pure_eq]
    · rfl

/-! ## Walks -/

/-- The accepted cells along a heading from `p` on, if they end within a number of rounds. -/
def walk (g : Grid) (heading : Heading) (accept : Cell → Bool) :
    Nat → Position → Except Failure (List (Position × Cell))
  | 0, _ => .error .endless
  | rounds + 1, p => do
    match ← cell g p with
    | some found =>
      if accept found then
        let rest ← walk g heading accept rounds (p.step heading 1)
        return (p, found) :: rest
      else return []
    | none => return []

/-- The accepted cells along a heading from `p` on. -/
def scan (g : Grid) (heading : Heading) (p : Position) (accept : Cell → Bool) :
    Except Failure (List (Position × Cell)) :=
  walk g heading accept (max g.height g.width + 1) p

/-- A walk succeeds that ends before its last round. -/
theorem walk_eq {rounds : Nat} (h : (g.walk heading accept rounds p).length < rounds) :
    walk g heading accept rounds p = .ok (g.walk heading accept rounds p) := by
  induction rounds generalizing p with
  | zero => simp at h
  | succ rounds ih =>
    rw [walk, Grid.walk, cell_eq, ok_bind]
    rw [Grid.walk] at h
    cases hcell : g.get? p with
    | none => rfl
    | some found =>
      rw [hcell] at h
      by_cases hacc : accept found = true
      · simp only [hacc, if_true, List.length_cons] at h ⊢
        rw [ih (by omega), ok_bind, pure_eq]
      · simp only [hacc]
        rfl

/-- A walk that has come to its end is not changed by one more step. -/
theorem walk_succ {steps : Nat}
    (h : (g.get? (p.step heading (g.walk heading accept steps p).length)).any accept = false) :
    g.walk heading accept (steps + 1) p = g.walk heading accept steps p := by
  induction steps generalizing p with
  | zero =>
    have hstop : (g.get? p).any accept = false := by simpa [Grid.walk] using h
    rw [Grid.walk, Grid.walk]
    cases hcell : g.get? p with
    | none => rfl
    | some found =>
      rw [hcell, Option.any_some] at hstop
      simp [hstop]
  | succ steps ih =>
    have hstep : ∀ n, g.walk heading accept (n + 1) p = match g.get? p with
        | some found =>
          if accept found then (p, found) :: g.walk heading accept n (p.step heading 1) else []
        | none => [] := fun n => rfl
    rw [hstep] at h
    rw [hstep, hstep]
    cases hcell : g.get? p with
    | none => rfl
    | some found =>
      rw [hcell] at h
      by_cases hacc : accept found = true
      · simp only [hacc, if_true, List.length_cons] at h ⊢
        rw [ih]
        rw [← Position.step_add]
        rw [Int.natCast_add, Int.add_comm] at h
        exact h
      · simp [hacc]

/-- A walk along a straight line ends: no line holds more cells than there are rows and columns. -/
theorem scan_eq (g : Grid) (heading : Heading) (p : Position) (accept : Cell → Bool) :
    scan g heading p accept = .ok (g.scan heading p accept) := by
  have hsame : g.walk heading accept (max g.height g.width + 1) p = g.scan heading p accept :=
    walk_succ (Grid.any_length_scan g heading p accept)
  have hle := Grid.length_walk_le g heading accept (max g.height g.width) p
  rw [scan, walk_eq, hsame]
  rw [hsame]
  exact Nat.lt_succ_of_le hle

end Checked

end Wireframe
