import Wireframe.Grid

/-!
# A straight walk is a longest run

A scan stops at the first place that is not accepted: `length_scan_eq_iff` says how long it is in
terms of the cells alone. The bound on its steps never cuts it short, since no straight line holds
more cells than the grid has rows and columns.
-/

namespace Wireframe.Grid

variable {g : Grid} {heading : Heading} {accept : Cell → Bool} {p : Position}

/-- A walk has at most as many cells as it may take steps. -/
theorem length_walk_le (g : Grid) (heading : Heading) (accept : Cell → Bool) (steps : Nat)
    (p : Position) : (g.walk heading accept steps p).length ≤ steps := by
  induction steps generalizing p with
  | zero => simp [walk]
  | succ steps ih =>
    rw [walk]
    split
    · split
      · have h := ih (p.step heading 1)
        rw [List.length_cons]
        omega
      · simp
    · simp

/-- Every cell of a walk is accepted. -/
theorem any_of_lt_length_walk {steps i : Nat}
    (h : i < (g.walk heading accept steps p).length) :
    (g.get? (p.step heading i)).any accept = true := by
  have hi := List.getElem?_eq_getElem h
  obtain ⟨hpos, hcell, hacc⟩ := walk_eq_map g heading accept steps p hi
  rw [← hpos, hcell]
  exact hacc

/-- A walk that has steps left stops where nothing accepted stands. -/
theorem any_length_walk {steps : Nat} (h : (g.walk heading accept steps p).length < steps) :
    (g.get? (p.step heading (g.walk heading accept steps p).length)).any accept = false := by
  induction steps generalizing p with
  | zero => simp [walk] at h
  | succ steps ih =>
    rw [walk] at h ⊢
    split at h
    · next cell hcell =>
      split at h
      · next hacc =>
        rw [List.length_cons] at h
        have hrest : (g.walk heading accept steps (p.step heading 1)).length < steps := by omega
        have hstop := ih hrest
        rw [if_pos hacc, List.length_cons]
        -- The place behind the walk is the same, counted from `p` or from the next position.
        rw [← Position.step_add] at hstop
        rw [Int.natCast_add, Int.add_comm]
        exact hstop
      · next hacc =>
        rw [if_neg hacc]
        simpa [hcell] using hacc
    · next hnone => simp [hnone]

/-- From a place in the grid, as many steps as there are rows and columns lead out of it. -/
theorem get?_step_eq_none (heading : Heading) (h : (g.get? p).isSome = true) :
    g.get? (p.step heading (max g.height g.width : Nat)) = none := by
  obtain ⟨cell, hcell⟩ := Option.isSome_iff_exists.1 h
  have hp := get?_eq_some_bounds hcell
  refine Option.eq_none_iff_forall_ne_some.2 fun cell' hcell' => ?_
  have hq := get?_eq_some_bounds hcell'
  cases heading <;>
    simp only [Position.step, Position.right, Position.left, Position.up, Position.down] at hq <;>
    omega

/-- A scan stops where nothing accepted stands. -/
theorem any_length_scan (g : Grid) (heading : Heading) (p : Position) (accept : Cell → Bool) :
    (g.get? (p.step heading (g.scan heading p accept).length)).any accept = false := by
  have hle := length_walk_le g heading accept (max g.height g.width) p
  rcases Nat.lt_or_eq_of_le hle with hlt | heq
  · exact any_length_walk hlt
  · -- A scan that takes all its steps has left the grid.
    rw [scan, heq]
    by_cases hp : (g.get? p).isSome = true
    · rw [get?_step_eq_none heading hp]
      rfl
    · have hnone : g.get? p = none := by simpa using hp
      rcases Nat.eq_zero_or_pos (max g.height g.width) with hzero | hpos
      · rw [hzero]
        simp [hnone]
      · have hfirst : 0 < (g.walk heading accept (max g.height g.width) p).length := by omega
        have haccepted := any_of_lt_length_walk hfirst
        simp [hnone] at haccepted

/-- A scan is as long as the run of accepted cells that it follows. -/
theorem length_scan_eq_iff {n : Nat} :
    (g.scan heading p accept).length = n ↔
      (∀ i < n, (g.get? (p.step heading i)).any accept = true) ∧
        (g.get? (p.step heading n)).any accept = false := by
  have hstop := any_length_scan g heading p accept
  have hrun : ∀ i < (g.scan heading p accept).length,
      (g.get? (p.step heading i)).any accept = true := fun i hi => any_of_lt_length_walk hi
  generalize (g.scan heading p accept).length = m at hstop hrun
  constructor
  · rintro rfl
    exact ⟨hrun, hstop⟩
  · rintro ⟨hrun', hstop'⟩
    -- Neither run ends inside the other.
    rcases Nat.lt_trichotomy m n with hlt | heq | hgt
    · rw [hrun' m hlt] at hstop
      exact absurd hstop (by simp)
    · exact heq
    · rw [hrun n hgt] at hstop'
      exact absurd hstop' (by simp)

end Wireframe.Grid
