import Wireframe.Proofs.Outline.Order
import Wireframe.Proofs.Repair.Rounds

/-!
# The line that a step changes

A step changes one line of its text and leaves the others as they are. It is the line of the problem
that the step lists, but for edges that do not match when the bottom edge is the shorter one: then
the bottom edge is made longer, and the problem is told at the top edge (`repair_changes_lines`).

That an edge is moved on one of its sides only, so that one line changes and not two, is no property
of the strategy. It holds since of a bottom edge that was found one side does stand under the top
edge (`OneSided`).
-/

namespace Wireframe

/-! ## Edges that do not match on one side -/

/-- A problem with edges that do not match tells of a bottom edge below the top edge that stands under
it on one side, and its widths are those between the columns that it tells. -/
inductive Diagnostic.OneSided : Diagnostic → Prop where
  /-- The corners, by their rows and columns. -/
  | corners (top left right bottom bottomLeft bottomRight : Int) (hbelow : top < bottom)
    (hside : bottomLeft = left ∨ bottomRight = right) :
    OneSided (.mismatchedWidth ⟨top, left⟩ (right - left) (bottomRight - bottomLeft) right bottom
      bottomLeft bottomRight)

/-- What a problem with edges that do not match tells of them if it is one-sided. -/
theorem Diagnostic.OneSided.of_mismatchedWidth {p : Position}
    {topWidth bottomWidth right bottom bottomLeft bottomRight : Int}
    (h : (mismatchedWidth p topWidth bottomWidth right bottom bottomLeft bottomRight).OneSided) :
    (topWidth = right - p.col ∧ bottomWidth = bottomRight - bottomLeft) ∧ p.row < bottom ∧
      (bottomLeft = p.col ∨ bottomRight = right) := by
  generalize hd : mismatchedWidth p topWidth bottomWidth right bottom bottomLeft bottomRight = d at h
  cases h with
  | corners top left right bottom bottomLeft bottomRight hbelow hside =>
    cases hd
    exact ⟨⟨rfl, rfl⟩, hbelow, hside⟩

/-- The edges stay as they are with more lines in front. -/
theorem Diagnostic.OneSided.shifted {d : Diagnostic} (h : d.OneSided) (rows : Int) :
    (d.shifted rows).OneSided := by
  cases h with
  | corners top left right bottom bottomLeft bottomRight hbelow hside =>
    rw [shifted_mismatchedWidth]
    exact .corners (top + rows) left right (bottom + rows) bottomLeft bottomRight (by omega) hside

/-- Of the problems of an outline, those with edges that do not match are one-sided. -/
theorem Grid.InEdgeOrder.oneSided {g : Grid} {radius : Int} {start : Position}
    {problems : List Diagnostic} (h : g.InEdgeOrder radius start problems) {d : Diagnostic}
    (hd : d ∈ problems) (hkind : d.kind = .mismatchedWidth) : d.OneSided := by
  have hpipes : ∀ expected pieces, d ∉ misalignedPipes expected pieces := by
    intro expected pieces hmem
    obtain ⟨p, -, rfl⟩ := List.mem_map.1 hmem
    cases hkind
  cases h with
  | openTop htop =>
    rw [List.mem_singleton.1 hd] at hkind
    cases hkind
  | openBelow topRight p edge right htop hright hedge hrow =>
    rcases List.mem_append.1 hd with hmem | hmem
    · exact absurd hmem (hpipes _ _)
    · rw [List.mem_singleton.1 hmem] at hkind
      cases hkind
  | corners topRight bottomLeft bottomRight right left width last htop _ _ _ hbelow _ _ hwidth _
      hlast =>
    simp only [List.mem_append, hpipes, false_or, or_false] at hd
    rcases hd with hmem | hmem
    · cases hwidth with
      | agree _ _ => simp at hmem
      | differ hside hwidths =>
        rw [List.mem_singleton.1 hmem]
        exact .corners start.row start.col topRight.col bottomRight.row bottomLeft.col
          bottomRight.col hbelow hside
    · cases hlast with
      | closed => simp at hmem
      | broken _ _ _ _ _ =>
        rw [List.mem_singleton.1 hmem] at hkind
        cases hkind

/-- So are those found in a drawing. -/
theorem Grid.oneSided_of_mem_detect {g : Grid} {radius : Int} {d : Diagnostic}
    (h : d ∈ (g.detect radius).problems) (hkind : d.kind = .mismatchedWidth) : d.OneSided := by
  obtain ⟨earlier, p, later, -, -, hd⟩ := mem_problems_detect_iff.1 h
  rw [Outline.problems] at hd
  cases houtcome : (g.outline radius p).outcome with
  | ok box =>
    rw [houtcome] at hd
    simp at hd
  | error problems =>
    rw [houtcome] at hd
    exact ((follows_outline g radius p).inEdgeOrder houtcome).oneSided hd hkind

/-- So are those found in a text. -/
theorem Config.oneSided_of_mem_diagnostics {config : Config} {text : String} {d : Diagnostic}
    (h : d ∈ (config.parseText text).diagnostics) (hkind : d.kind = .mismatchedWidth) :
    d.OneSided := by
  rcases Analysis.mem_diagnostics_iff.1 (Parsed.mem_diagnostics_iff.1 h) with
    htab | ⟨block, -, hfound⟩ | hid | ⟨i, hi, -⟩
  · rw [Analysis.kind_of_mem_tabsIn htab] at hkind
    cases hkind
  · rcases BlockAnalysis.mem_diagnostics_iff.1 hfound with ⟨e, he, rfl⟩ | ⟨e, he, rfl⟩ | hcontent
    · rw [Diagnostic.kind_shifted] at hkind
      exact (Grid.oneSided_of_mem_detect he hkind).shifted _
    · rw [Diagnostic.kind_shifted, Nesting.kind_of_mem_depthWarnings he] at hkind
      cases hkind
    · have hread := Reader.ofContent_of_mem_scene block hcontent
      rw [hkind] at hread
      cases hread
  · rw [Analysis.kind_of_mem_repeatedIds hid] at hkind
    cases hkind
  · simp [Analysis.ofText] at hi

namespace Repair

/-! ## Changed lines -/

/-- The row of the bottom edge, if a problem tells of a bottom edge that is shorter than the top
edge. -/
def shorterBottom? (d : Diagnostic) : Option Int := do
  let top ← (d.details.lookup "top_width").bind Detail.number?
  let bottom ← (d.details.lookup "bottom_width").bind Detail.number?
  if bottom < top then (d.details.lookup "bottom_row").bind Detail.number? else none

/-- The lines of a text before and after a change that differ on one row only. -/
structure DifferOn (before after : List Line) (row : Nat) : Prop where
  /-- There are as many as before. -/
  length : after.length = before.length
  /-- The line on the row is another one. -/
  differ : after[row]? ≠ before[row]?
  /-- The other lines are the same. -/
  others : ∀ other, other ≠ row → after[other]? = before[other]?

/-- Where a change is made: on the line that it tells, or below it, in a bottom edge that is shorter
than the top edge. -/
inductive ChangesLine (before after : List Line) (change : Change) : Prop where
  /-- On the line that it tells. -/
  | told (row : Nat) (hdiffer : DifferOn before after row) (hline : change.line = row + 1)
    (hbottom : shorterBottom? change.problem = none)
  /-- In the bottom edge. -/
  | bottom (row : Nat) (hdiffer : DifferOn before after row) (hline : change.line < row + 1)
    (hbottom : shorterBottom? change.problem = some (row : Int))

namespace Strategy

variable {strategies : List Strategy} {lines repaired : List Line}

/-- If putting in a line changes the lines, they differ on its row only. -/
theorem differOn_setLine {row : Nat} {line : Line} (h : setLine lines row line ≠ lines) :
    DifferOn lines (setLine lines row line) row where
  length := by rw [setLine, List.length_set]
  differ hsame := h (List.ext_getElem? fun i => by
    by_cases hi : i = row
    · rw [hi, hsame]
    · exact getElem?_setLine_of_ne (Ne.symm hi) lines line)
  others other hother := getElem?_setLine_of_ne (Ne.symm hother) lines line

/-- The widths of edges that do not match are compared as they are told. -/
theorem shorterBottom?_mismatchedWidth (p : Position)
    (topWidth bottomWidth right bottom bottomLeft bottomRight : Int) :
    shorterBottom?
        (.mismatchedWidth p topWidth bottomWidth right bottom bottomLeft bottomRight) =
      if bottomWidth < topWidth then some bottom else none := rfl

/-- Where one side is right, one corner is moved: at the bottom edge if that is the shorter one, and
otherwise at the top edge. -/
theorem exists_extendRow_of_align {top left right bottom bottomLeft bottomRight : Int}
    (hside : bottomLeft = left ∨ bottomRight = right)
    (h : Corners.align
      ⟨top, bottom, differing left bottomLeft, differing right bottomRight⟩ lines =
        some repaired) :
    ∃ old new, extendRow lines (if bottomRight - bottomLeft < right - left then bottom else top)
      old new = some repaired := by
  have hagree : ∀ col : Int, differing col col = none := fun col => if_pos rfl
  unfold Corners.align at h
  split at h
  · simp at h
  · split at h
    · simp at h
    · next hdiffer =>
      rw [Corners.alignLeft] at h
      rcases hside with rfl | rfl
      · have hne : right ≠ bottomRight := fun heq => hdiffer ⟨hagree _, if_pos heq⟩
        have hright : differing right bottomRight = some (right, bottomRight) := if_neg hne
        simp only [hagree, Option.bind_some, Corners.alignRight, hright] at h
        split at h
        · exact ⟨_, _, by rwa [if_pos (by omega)]⟩
        · exact ⟨_, _, by rwa [if_neg (by omega)]⟩
      · have hne : left ≠ bottomLeft := fun heq => hdiffer ⟨if_pos heq, hagree _⟩
        have hleft : differing left bottomLeft = some (left, bottomLeft) := if_neg hne
        simp only [hleft] at h
        obtain ⟨half, hhalf, hrest⟩ := Option.bind_eq_some_iff.1 h
        simp only [Corners.alignRight, hagree, Option.some.injEq] at hrest
        rw [hrest] at hhalf
        split at hhalf
        · exact ⟨_, _, by rwa [if_pos (by omega)]⟩
        · exact ⟨_, _, by rwa [if_neg (by omega)]⟩

/-- Lines that a repair changes differ on one row only. -/
theorem changesLine_of_repaired {change : Change} (hne : repaired ≠ lines)
    (h : Repaired strategies lines change.problem repaired)
    (hsides : change.problem.kind = .mismatchedWidth → change.problem.OneSided) :
    ChangesLine lines repaired change := by
  obtain ⟨d, description⟩ := change
  dsimp only at h hsides
  cases h with
  | tab row col width snippet line hwidth hline htab =>
    exact .told row (differOn_setLine hne) rfl rfl
  | pipe row expected actual line moved hline hmoved =>
    exact .told row (differOn_setLine hne) rfl rfl
  | bracket row col edge content line closed hcontent hbehind hedge hline hclosed =>
    exact .told row (differOn_setLine hne) rfl rfl
  | width top left right bottom bottomLeft bottomRight topWidth bottomWidth _ haligned =>
    obtain ⟨⟨rfl, rfl⟩, hbelow, hside⟩ := (hsides rfl).of_mismatchedWidth
    obtain ⟨old, new, hrow⟩ := exists_extendRow_of_align hside haligned
    obtain ⟨row, line, moved, hplace, -, -, rfl⟩ := exists_of_extendRow hrow
    have hdiffer := differOn_setLine hne
    split at hplace
    · next hshorter =>
      rw [hplace] at hbelow
      refine .bottom row hdiffer ?_ ?_
      · exact Int.add_lt_add_right hbelow 1
      · rw [shorterBottom?_mismatchedWidth, if_pos hshorter, hplace]
    · next hlonger =>
      refine .told row hdiffer ?_ ?_
      · exact congrArg (· + 1) hplace
      · rw [shorterBottom?_mismatchedWidth, if_neg hlonger]

end Strategy

/-! ## Whole texts -/

namespace Settings

variable {s : Settings} {text edited last : String} {change : Change} {changes : List Change}

/-- A step changes one line. -/
theorem changesLine_of_step (h : s.step text = some (edited, change)) :
    ChangesLine (Text.lines text.toList) (Text.lines edited.toList) change := by
  have hne : Text.lines edited.toList ≠ Text.lines text.toList := by
    intro hlines
    have htext := congrArg Text.block hlines
    rw [Text.block_lines, Text.block_lines] at htext
    exact ne_of_step h htext
  obtain ⟨strategy, e, hedits⟩ := edits_of_step h
  exact Strategy.changesLine_of_repaired hne (repaired_of_step h)
    (Config.oneSided_of_mem_diagnostics hedits.found)

/-- Each of several changes was made in a step from the text that the changes before it led to. -/
theorem Steps.exists_step (h : s.Steps text changes last) {i : Nat} (hi : changes[i]? = some change) :
    ∃ before after, s.after i text = some before ∧ s.step before = some (after, change) := by
  induction h generalizing i with
  | none text => simp at hi
  | cons text edited last first changes hstep _ ih =>
    cases i with
    | zero =>
      rw [List.getElem?_cons_zero, Option.some.injEq] at hi
      rw [← hi]
      exact ⟨text, edited, rfl, hstep⟩
    | succ i =>
      rw [List.getElem?_cons_succ] at hi
      obtain ⟨before, after, hafter, hnext⟩ := ih hi
      refine ⟨before, after, ?_, hnext⟩
      rw [Settings.after, hstep, Option.bind_some, hafter]

/-- Repair goes in steps from its text with the line ends unified, and each of its changes leaves all
lines but one as they are. That is the line which the change tells, unless the problem is a bottom
edge that is shorter than the top edge. Then it is the line of the bottom edge, which stands below
the line that is told, and nothing changes there. If repair ends, the changes are those that it
lists; if it is given up, there is one for each text that may be read. -/
theorem repair_changes_lines (s : Settings) (text : String) :
    ∃ changes last, s.Steps (start text) changes last ∧
      (match s.repair text with
        | .ok o => o.changes = changes ∧ o.text = last
        | .error _ => changes.length = s.maxRounds) ∧
      ∀ (i : Nat) (change : Change), changes[i]? = some change →
        ∃ before after, s.after i (start text) = some before ∧
          s.step before = some (after, change) ∧
            ChangesLine (Text.lines before.toList) (Text.lines after.toList) change := by
  have hlines : ∀ {changes last}, s.Steps (start text) changes last →
      ∀ (i : Nat) (change : Change), changes[i]? = some change →
        ∃ before after, s.after i (start text) = some before ∧
          s.step before = some (after, change) ∧
            ChangesLine (Text.lines before.toList) (Text.lines after.toList) change := by
    intro changes last hsteps i change hi
    obtain ⟨before, after, hafter, hstep⟩ := hsteps.exists_step hi
    exact ⟨before, after, hafter, hstep, changesLine_of_step hstep⟩
  cases hrepair : s.repair text with
  | ok o =>
    obtain ⟨hbefore, -, -, hsteps⟩ := steps_of_repair hrepair
    rw [hbefore] at hsteps
    exact ⟨o.changes, o.text, hsteps, ⟨rfl, rfl⟩, hlines hsteps⟩
  | error e =>
    obtain ⟨changes, last, hlength, hsteps⟩ := steps_of_repair_error hrepair
    exact ⟨changes, last, hsteps, hlength, hlines hsteps⟩

/-- A box with a bottom edge that is too short. -/
def shortBottom : String := "+---+\n|   |\n+--+"

/-- The bottom edge of a box is made longer, and the change tells the line of its top edge. -/
theorem not_forall_line_changed :
    ¬ ∀ (s : Settings) (text before after : String) (o : Outcome) (i : Nat) (change : Change),
      s.repair text = .ok o → o.changes[i]? = some change →
      s.after i (start text) = some before → s.after (i + 1) (start text) = some after →
      ∀ row : Nat, change.line = row + 1 →
        (Text.lines after.toList)[row]? ≠ (Text.lines before.toList)[row]? := by
  intro hchanged
  obtain ⟨o, change, hrepair, hchanges, hline⟩ :
      ∃ o change, default.repair shortBottom = .ok o ∧ o.changes = [change] ∧ change.line = 1 := by
    have hlines : (default.repair shortBottom).toOption.map (fun o => o.changes.map (·.line)) =
        some [1] := by
      decide +kernel
    cases hrepair : default.repair shortBottom with
    | error e =>
      rw [hrepair] at hlines
      simp [Except.toOption] at hlines
    | ok o =>
      rw [hrepair] at hlines
      obtain ⟨change, hchanges, hline⟩ := List.map_eq_singleton_iff.1 (Option.some.inj hlines)
      exact ⟨o, change, rfl, hchanges, hline⟩
  exact hchanged default shortBottom shortBottom "+---+\n|   |\n+---+" o 0 change hrepair
    (by rw [hchanges]; rfl) (by decide +kernel) (by decide +kernel) 0 hline (by decide +kernel)

end Settings

end Repair

end Wireframe
