/-!
# Values under keys

Lists of values under keys, each key once, in the order in which the keys came in. Setting a key
that is there replaces its value in place.
-/

namespace Wireframe.Keyed

variable {κ α : Type} [DecidableEq κ]

/-- A value set under a key. A new key goes to the end. -/
def set (entries : List (κ × α)) (key : κ) (value : α) : List (κ × α) :=
  match entries with
  | [] => [(key, value)]
  | (k, v) :: rest => if k = key then (key, value) :: rest else (k, v) :: set rest key value

/-- Entries overridden by others, one after the other. -/
def update (entries news : List (κ × α)) : List (κ × α) :=
  news.foldl (fun acc (key, value) => set acc key value) entries

/-- Pairs as entries: of pairs with one key the last value counts, at the place of the first. -/
def ofPairs (pairs : List (κ × α)) : List (κ × α) := update [] pairs

/-- Setting a key changes what is found under that key only. -/
theorem lookup_set (entries : List (κ × α)) (key other : κ) (value : α) :
    (set entries key value).lookup other =
      if other = key then some value else entries.lookup other := by
  induction entries with
  | nil =>
    by_cases h : other = key
    · simp [set, h]
    · have : (other == key) = false := by simpa using h
      simp [set, List.lookup_cons, h, this]
  | cons p entries ih =>
    obtain ⟨k, v⟩ := p
    unfold set
    -- The first entry is the one that is set, the one that is looked up, or neither.
    by_cases hk : k = key
    · subst hk
      by_cases h : other = k
      · simp [h]
      · have : (other == k) = false := by simpa using h
        simp [List.lookup_cons, h, this]
    · by_cases ho : other = k
      · subst ho
        simp [hk]
      · have : (other == k) = false := by simpa using ho
        simp [List.lookup_cons, hk, this, ih]

end Wireframe.Keyed
