/-!
# Offsets from either end

An offset that is not negative counts from the start of a list and a negative one from its end, so
`-1` names the last entry. A slice clips its ends to the list and never fails.
-/

namespace Wireframe.Text

variable {α : Type}

/-- The place an offset names among `n` entries, clipped to `0` and `n`. -/
def clipOffset (n : Nat) (i : Int) : Nat :=
  if i < 0 then (i + n).toNat else min i.toNat n

/-- The entries from `start` up to but not including `stop`; without `stop`, to the end. -/
def slice (xs : List α) (start : Int) (stop : Option Int) : List α :=
  let last := match stop with
    | none => xs.length
    | some stop => clipOffset xs.length stop
  (xs.take last).drop (clipOffset xs.length start)

/-- The place of an offset that lies inside the list. -/
def offset? (n : Nat) (i : Int) : Option Nat :=
  if i < -n ∨ n ≤ i then none else some (clipOffset n i)

/-- The entry at an offset, if there is one. -/
def entry? (xs : List α) (i : Int) : Option α :=
  (offset? xs.length i).bind fun k => xs[k]?

/-- The list with the entry at an offset replaced. Outside the list nothing changes. -/
def setEntry (xs : List α) (i : Int) (x : α) : List α :=
  match offset? xs.length i with
  | some k => xs.set k x
  | none => xs

/-- An offset from the start is clipped at the end only. -/
theorem clipOffset_of_nonneg {n : Nat} {i : Int} (h : 0 ≤ i) : clipOffset n i = min i.toNat n := by
  simp [clipOffset, Int.not_lt.2 h]

/-- An offset from the start names the entry at that place. -/
theorem entry?_of_nonneg (xs : List α) {i : Int} (h : 0 ≤ i) : entry? xs i = xs[i.toNat]? := by
  unfold entry? offset?
  split
  · next hout =>
    have : xs.length ≤ i.toNat := by omega
    simp [this]
  · next hin =>
    have : min i.toNat xs.length = i.toNat := by omega
    simp [clipOffset_of_nonneg h, this]

end Wireframe.Text
