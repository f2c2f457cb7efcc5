import Wireframe.Proofs.Repair.Resolves

/-!
# When repair goes in circles

Repair may come back to a text that it has read before: two boxes that want the same piece of an
edge in different columns have it moved to and fro. `after_recurs` says that nothing else makes a
text recur. No edit brings back a tab (`keptByEdits_tab_mem`) or takes away what is written, and
closing a bracket and moving a corner add to it, so between two times that a text is read only
pieces of edges are moved (`Steps.exists_moves`). As each move makes its line longer or shorter
(`Move.Made.rowLength_eq`), the moves on a line cancel out.

From a text that recurs steps can be made for ever (`after_period`), so its repair is given up.
-/

namespace Wireframe

/-! ## Ink and tabs -/

/-- Something put in makes a line longer. -/
theorem Text.Extends.length_le {a b : Line} (h : Extends a b) : a.length ≤ b.length := by
  induction h with
  | nil => exact Nat.le_refl _
  | keep c before after _ ih => exact Nat.succ_le_succ ih
  | put c before after _ _ ih => exact Nat.le_succ_of_le ih

namespace Repair.Strategy

open Text (KeepsInk ink)

/-- No edit brings a tab to a line that has none. -/
theorem keptByEdits_tab_mem (strategies : List Strategy) :
    KeptByEdits strategies fun a b => '\t' ∈ b → '\t' ∈ a where
  refl _ := id
  trans _ _ _ hab hbc := hab ∘ hbc
  tab width line _ htab := absurd htab (tab_not_mem_expandTabs width line)
  pipe line moved expected actual h htab := by
    obtain ⟨-, ⟨-, rfl⟩ | ⟨-, rfl, -⟩⟩ := movePipe_eq_some h
    · rcases List.mem_append.1 htab with hfront | hbehind
      · rcases List.mem_append.1 hfront with hfront | hspace
        · exact List.mem_of_mem_take hfront
        · exact absurd (List.eq_of_mem_replicate hspace) (by decide)
      · exact List.mem_of_mem_drop hbehind
    · rcases List.mem_append.1 htab with hfront | hbehind
      · exact List.mem_of_mem_take hfront
      · exact List.mem_of_mem_drop hbehind
  bracket line closed content col edge hcontent _ _ h htab := by
    obtain ⟨-, gap, rest, hdrop, -, rfl⟩ := closeBracket_eq_some hcontent h
    rcases List.mem_append.1 htab with hfront | hrest
    · rcases List.mem_append.1 hfront with hfront | hbracket
      · exact List.mem_of_mem_take hfront
      · exact absurd hbracket (by decide)
    · have hmem : '\t' ∈ line.drop (col + content.length) := by
        rw [hdrop]
        exact List.mem_append_right gap hrest
      exact List.mem_of_mem_drop hmem
  corner line extended old new h htab := by
    obtain ⟨-, -, hchars⟩ := getElem?_extendEdge h
    obtain ⟨i, hi⟩ := List.getElem?_of_mem htab
    -- In the columns of the edge stand dashes and the corner.
    have hmem : '\t' ∈ Text.padRight (max old new + 1) line := by
      rw [hchars] at hi
      split at hi
      · simp at hi
      · split at hi
        · simp at hi
        · exact List.mem_of_getElem? hi
    rcases List.mem_append.1 hmem with hline | hspace
    · exact hline
    · exact absurd (List.eq_of_mem_replicate hspace) (by decide)

/-- Closing a bracket adds to what is written. -/
theorem length_ink_lt_closeBracket {line closed content : Line} {col : Nat}
    (hcontent : content ≠ []) (h : closeBracket line col content = some closed) :
    (ink line).length < (ink closed).length := by
  obtain ⟨-, gap, rest, hdrop, hgap, rfl⟩ := closeBracket_eq_some hcontent h
  have hline : line = line.take (col + content.length) ++ gap ++ rest := by
    rw [List.append_assoc, ← hdrop, List.take_append_drop]
  have hbracket : ink [' ', ']'] = [']'] := rfl
  calc (ink line).length
      = (ink (line.take (col + content.length))).length + (ink rest).length := by
        rw [hline, Text.ink_append, Text.ink_append, Text.ink_eq_nil hgap, List.append_nil,
          List.length_append, ← hline]
    _ < (ink (line.take (col + content.length) ++ [' ', ']'] ++ rest)).length := by
        rw [Text.ink_append, Text.ink_append, hbracket, List.length_append, List.length_append,
          List.length_singleton]
        omega

/-- Moving a corner to another column adds to what is written. -/
theorem length_ink_lt_extendEdge {line extended : Line} {old new : Nat} (hne : old ≠ new)
    (h : extendEdge line old new = some extended) :
    (ink line).length < (ink extended).length := by
  have hnil : ink [] = [] := rfl
  have hcorner : ∀ l, ink ('+' :: l) = '+' :: ink l := fun l => List.filter_cons_of_pos rfl
  have hink := Text.ink_padRight (max old new + 1) line
  obtain ⟨before, after, k, ⟨hk, -, hpadded, rfl⟩ | ⟨hk, -, hpadded, rfl⟩⟩ := extendEdge_eq_some h
  · rw [hpadded] at hink
    rw [← hink]
    simp only [Text.ink_append, hcorner, hnil, Text.ink_replicate_space, Text.ink_replicate_dash,
      List.length_append, List.length_cons, List.length_nil, List.length_replicate]
    omega
  · rw [hpadded] at hink
    rw [← hink]
    simp only [Text.ink_append, hcorner, hnil, Text.ink_replicate_space, Text.ink_replicate_dash,
      List.length_append, List.length_cons, List.length_nil, List.length_replicate]
    omega

/-- Where two corners that differ were aligned, something is written that was not before. -/
theorem Corners.not_keepsInk_of_aligns {topRow bottomRow top bottom : Nat}
    {lines aligned : List Line}
    (h : Corners.Aligns topRow bottomRow (differing top bottom) lines aligned)
    (hne : differing top bottom ≠ none) : ¬ List.Forall₂ KeepsInk aligned lines := by
  intro hback
  have hmoved : ∀ {row old new : Nat}, old ≠ new →
      extendRow lines row old new ≠ some aligned := by
    intro row old new hcols hrow
    obtain ⟨r, line, moved, -, hline, hmoved, rfl⟩ := exists_of_extendRow hrow
    have hkeeps : KeepsInk moved line := rel_of_forall₂ hback (getElem?_setLine hline moved) hline
    have hless := length_ink_lt_extendEdge hcols hmoved
    have hle := hkeeps.length_le
    omega
  rcases h.eq_or_extendRow with ⟨hnone, -⟩ | ⟨hcols, htop | hbottom⟩
  · exact hne hnone
  · exact hmoved (by omega) htop
  · exact hmoved (by omega) hbottom

/-! ## Moves -/

/-- A piece of a vertical edge, its column, and the one to which it is moved. -/
structure Move where
  /-- The row. -/
  row : Nat
  /-- The new column. -/
  expected : Nat
  /-- The old column. -/
  actual : Nat

namespace Move

/-- The problem that is repaired by a move. -/
def problem (m : Move) : Diagnostic := .misalignedPipe ⟨m.row, m.actual⟩ m.expected m.actual

/-- The number of columns by which a piece is moved to the right; negative for a move to the
left. -/
def columns (m : Move) : Int := m.expected - m.actual

/-- The lines before and after a move. -/
def Made (m : Move) (lines repaired : List Line) : Prop :=
  ∃ line moved, lines[m.row]? = some line ∧ movePipe line m.expected m.actual = some moved ∧
    repaired = setLine lines m.row moved

/-- By how much the moves on a row shift pieces to the right, those to the left taken off. -/
def shift (moves : List Move) (row : Nat) : Int :=
  ((moves.filter fun m => m.row = row).map columns).sum

end Move

/-- If neither a tab was lost nor anything written, a repair was a move. -/
theorem exists_move_of_repaired {strategies : List Strategy} {lines repaired : List Line}
    {d : Diagnostic} (h : Repaired strategies lines d repaired)
    (htabs : List.Forall₂ (fun a b => '\t' ∈ b → '\t' ∈ a) repaired lines)
    (hink : List.Forall₂ KeepsInk repaired lines) :
    ∃ m : Move, d = m.problem ∧ m.Made lines repaired := by
  cases h with
  | tab row col width snippet line hwidth hline htab =>
    have hback := rel_of_forall₂ htabs (getElem?_setLine hline (expandTabs width line)) hline
    exact absurd (hback htab) (tab_not_mem_expandTabs width line)
  | pipe row expected actual line moved hline hmoved =>
    exact ⟨⟨row, expected, actual⟩, rfl, line, moved, hline, hmoved, rfl⟩
  | bracket row col edge content line closed hcontent hbehind hedge hline hclosed =>
    have hkeeps : KeepsInk closed line := rel_of_forall₂ hink (getElem?_setLine hline closed) hline
    have hless := length_ink_lt_closeBracket hcontent hclosed
    have hle := hkeeps.length_le
    omega
  | width top left right bottom bottomLeft bottomRight topWidth bottomWidth _ haligned =>
    obtain ⟨hdiffer, half, hleft, hright⟩ := Corners.exists_of_align haligned
    have hkept := keptByEdits_keepsInk strategies
    rcases hdiffer with hne | hne
    · have hback := forall₂_trans hkept.trans (hkept.forall₂_aligns hright) hink
      exact absurd hback (Corners.not_keepsInk_of_aligns hleft hne)
    · have hback := forall₂_trans hkept.trans hink (hkept.forall₂_aligns hleft)
      exact absurd hback (Corners.not_keepsInk_of_aligns hright hne)

/-- The number of characters on a row. -/
def rowLength (lines : List Line) (row : Nat) : Nat := (lines[row]?.getD []).length

namespace Move

variable {m : Move} {lines repaired : List Line}

/-- A piece is moved to another column. -/
theorem Made.expected_ne_actual (h : m.Made lines repaired) : m.expected ≠ m.actual := by
  obtain ⟨line, moved, -, hmoved, -⟩ := h
  obtain ⟨-, ⟨hlt, -⟩ | ⟨hlt, -⟩⟩ := movePipe_eq_some hmoved
  · exact hlt.ne'
  · exact hlt.ne

/-- A move makes its row longer by as many columns as the piece is moved to the right, or shorter
when it is moved to the left. -/
theorem Made.rowLength_eq (h : m.Made lines repaired) (row : Nat) :
    (rowLength repaired row : Int) = rowLength lines row + shift [m] row := by
  obtain ⟨line, moved, hline, hmoved, rfl⟩ := h
  by_cases hrow : m.row = row
  · subst hrow
    have hshift : shift [m] m.row = m.columns := by simp [shift]
    have hlength : (moved.length : Int) = line.length + m.columns := by
      obtain ⟨hpiece, hcases⟩ := movePipe_eq_some hmoved
      have hactual : m.actual < line.length := (List.getElem?_eq_some_iff.1 hpiece).1
      rcases hcases with ⟨hlt, rfl⟩ | ⟨hlt, rfl, -⟩
      · simp only [List.length_append, List.length_take, List.length_replicate, List.length_drop,
          columns]
        omega
      · simp only [List.length_append, List.length_take, List.length_drop, columns]
        omega
    rw [rowLength, rowLength, getElem?_setLine hline, hline, hshift]
    exact hlength
  · rw [rowLength, rowLength, getElem?_setLine_of_ne hrow]
    simp [shift, hrow]

end Move

end Repair.Strategy

/-! ## Texts that recur -/

namespace Repair.Settings

open Strategy (Move rowLength)

variable {s : Settings} {text edited last : String} {changes more : List Change}

/-- The text after a number of steps, if that many can be made. -/
def after (s : Settings) : Nat → String → Option String
  | 0, text => some text
  | n + 1, text => (s.step text).bind fun made => after s n made.1

/-- Steps in a row. -/
theorem after_add (s : Settings) (m n : Nat) (text : String) :
    s.after (m + n) text = (s.after m text).bind (s.after n) := by
  induction m generalizing text with
  | zero => rw [Nat.zero_add, after, Option.bind_some]
  | succ m ih =>
    rw [Nat.succ_add, after, after, Option.bind_assoc]
    exact Option.bind_congr fun made _ => ih made.1

/-- A text is reached by a number of steps when as many changes lead to it. -/
theorem after_eq_some_iff {n : Nat} :
    s.after n text = some last ↔ ∃ changes, changes.length = n ∧ s.Steps text changes last := by
  constructor
  · intro h
    induction n generalizing text with
    | zero =>
      obtain rfl := Option.some.inj h
      exact ⟨[], rfl, .none text⟩
    | succ n ih =>
      obtain ⟨⟨edited, change⟩, hstep, hrest⟩ := Option.bind_eq_some_iff.1 h
      obtain ⟨changes, rfl, hsteps⟩ := ih hrest
      exact ⟨change :: changes, rfl, .cons _ _ _ _ _ hstep hsteps⟩
  · rintro ⟨changes, rfl, hsteps⟩
    induction hsteps with
    | none text => rfl
    | cons text edited last change changes hstep _ ih =>
      rw [List.length_cons, after, hstep]
      exact ih

/-- Steps that follow one another. -/
theorem Steps.append (h : s.Steps text changes edited) (h' : s.Steps edited more last) :
    s.Steps text (changes ++ more) last := by
  induction h with
  | none text => exact h'
  | cons text edited last change changes hstep _ ih => exact .cons _ _ _ _ _ hstep (ih h')

/-- Steps from a text to which other steps lead back are moves, and the moves on a row make it
longer or shorter by what they shift. -/
theorem Steps.exists_moves (h : s.Steps text changes last) (hback : s.Steps last more text) :
    ∃ moves : List Move, changes.map (·.problem) = moves.map Move.problem ∧
      (∀ m ∈ moves, m.expected ≠ m.actual) ∧
        ∀ row, (rowLength (Text.lines last.toList) row : Int) =
          rowLength (Text.lines text.toList) row + Move.shift moves row := by
  induction h generalizing more with
  | none text => exact ⟨[], rfl, by simp, fun row => by simp [Move.shift]⟩
  | cons text edited last change changes hstep hrest ih =>
    -- The other steps lead back to this text by way of the last one.
    have hreturn := hrest.append hback
    obtain ⟨m, hproblem, hmade⟩ := Strategy.exists_move_of_repaired (repaired_of_step hstep)
      (hreturn.forall₂ (Strategy.keptByEdits_tab_mem s.strategies))
      (hreturn.forall₂ (Strategy.keptByEdits_keepsInk s.strategies))
    obtain ⟨moves, hproblems, hne, hlength⟩ :=
      ih (hback.append (.cons _ _ _ _ _ hstep (.none edited)))
    refine ⟨m :: moves, by rw [List.map_cons, List.map_cons, hproblem, hproblems],
      List.forall_mem_cons.2 ⟨hmade.expected_ne_actual, hne⟩, fun row => ?_⟩
    have hshift : Move.shift (m :: moves) row = Move.shift [m] row + Move.shift moves row := by
      rw [Move.shift, ← List.singleton_append, List.filter_append, List.map_append,
        List.sum_append]
      rfl
    rw [hlength row, hmade.rowLength_eq row, hshift, Int.add_assoc]

/-- A text that comes back after some steps comes back again and again. -/
theorem after_period {period : Nat} (h : s.after period text = some text) (n : Nat) :
    s.after (n * period) text = some text := by
  induction n with
  | zero => rw [Nat.zero_mul, after]
  | succ n ih => rw [Nat.succ_mul, after_add, ih, Option.bind_some, h]

/-- No repair ends that reads a text which comes back. -/
theorem exists_error_of_period {i period : Nat} (hperiod : 0 < period)
    (hi : s.after i (String.ofList (Text.unifyNewlines text.toList)) = some last)
    (h : s.after period last = some last) : ∃ e, s.repair text = .error e := by
  cases hrepair : s.repair text with
  | error e => exact ⟨e, rfl⟩
  | ok o =>
    obtain ⟨hbefore, -, hdone, hsteps⟩ := steps_of_repair hrepair
    rw [← hbefore] at hi
    -- More steps can be made than the repair has taken.
    have hlong : s.after (i + (o.changes.length + 1) * period) o.before = some last := by
      rw [after_add, hi, Option.bind_some, after_period h]
    obtain ⟨extra, hextra⟩ : ∃ extra, i + (o.changes.length + 1) * period =
        o.changes.length + (extra + 1) := by
      have hle : o.changes.length + 1 ≤ (o.changes.length + 1) * period :=
        Nat.le_mul_of_pos_right _ hperiod
      exact ⟨i + (o.changes.length + 1) * period - (o.changes.length + 1), by omega⟩
    rw [hextra, after_add, after_eq_some_iff.2 ⟨_, rfl, hsteps⟩, Option.bind_some, after, hdone,
      Option.bind_none] at hlong
    simp at hlong

/-- If a text recurs in the steps from a text with its line ends unified, repair of that text is
given up, and each change in between has moved a piece of a vertical edge, where the moves to the
right and to the left cancel out on every row. -/
theorem after_recurs (s : Settings) (text last : String) (i j : Nat) (hij : i < j)
    (hi : s.after i (String.ofList (Text.unifyNewlines text.toList)) = some last)
    (hj : s.after j (String.ofList (Text.unifyNewlines text.toList)) = some last) :
    (∃ e, s.repair text = .error e) ∧
      ∃ (changes : List Change) (moves : List Move), s.Steps last changes last ∧
        changes.length = j - i ∧ changes.map (·.problem) = moves.map Move.problem ∧
        (∀ m ∈ moves, m.expected ≠ m.actual) ∧ ∀ row, Move.shift moves row = 0 := by
  have hperiod : s.after (j - i) last = some last := by
    have hsplit : j = i + (j - i) := by omega
    rw [hsplit, after_add, hi, Option.bind_some] at hj
    exact hj
  obtain ⟨changes, hlength, hsteps⟩ := after_eq_some_iff.1 hperiod
  obtain ⟨moves, hproblems, hne, hshift⟩ := hsteps.exists_moves hsteps
  refine ⟨exists_error_of_period (by omega) hi hperiod, changes, moves, hsteps, hlength,
    hproblems, hne, fun row => ?_⟩
  have hrow := hshift row
  omega

/-- Two boxes side by side with one piece of an edge between them, where each needs its own. -/
def competingBoxes : String := "+--+ +--+\n|  |    |\n+--+ +--+"

/-- The piece between the boxes is moved to the second one and back. -/
theorem after_recurs_competing_boxes :
    default.after 2 competingBoxes = some competingBoxes ∧
      (∃ e, default.repair competingBoxes = .error e) ∧
      ∃ (changes : List Change) (moves : List Move),
        default.Steps competingBoxes changes competingBoxes ∧ changes.length = 2 ∧
        changes.map (·.problem) = moves.map Move.problem ∧
        (∀ m ∈ moves, m.expected ≠ m.actual) ∧ ∀ row, Move.shift moves row = 0 := by
  have hstart : default.after 0 (String.ofList (Text.unifyNewlines competingBoxes.toList)) =
      some competingBoxes := by
    decide +kernel
  have hback : default.after 2 (String.ofList (Text.unifyNewlines competingBoxes.toList)) =
      some competingBoxes := by
    decide +kernel
  have hsame := Option.some.inj hstart
  rw [hsame] at hback
  exact ⟨hback, after_recurs default competingBoxes competingBoxes 0 2 (by decide) hstart
    (by rw [hsame]; exact hback)⟩

/-- Texts may recur, also when only three are read. -/
theorem not_forall_after_ne :
    ¬ ∀ (text last : String) (rounds i j : Nat), i < j → j ≤ rounds →
      ({ default with maxRounds := rounds } : Settings).after i
        (String.ofList (Text.unifyNewlines text.toList)) = some last →
      ({ default with maxRounds := rounds } : Settings).after j
        (String.ofList (Text.unifyNewlines text.toList)) ≠ some last := by
  intro hdistinct
  exact hdistinct competingBoxes competingBoxes 2 0 2 (by decide) (by decide) (by decide +kernel)
    (by decide +kernel)

end Repair.Settings

end Wireframe
