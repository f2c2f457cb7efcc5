import Wireframe.Proofs.Repair.Ink

/-!
# Repair resolves the problems that it lists

A problem that a step lists was found before the step and is not found after it, in whichever block
and by whichever stage of reading (`repair_resolves`). A problem that is found applies to the text,
so it is enough to look at the places that the problem names: what the edit has put there
contradicts what the problem says (`not_applies_of_repaired`).
-/

namespace Wireframe

/-! ## Problems that say the same -/

/-- Numbers are the same detail when they are equal. -/
@[simp] theorem Detail.same_number (m n : Int) :
    (Detail.number m).same (.number n) = decide (m = n) := by
  by_cases h : m = n <;> simp [number, same, Scalar.same, Scalar.numeric?, h]

namespace Details

variable {a b : Details} {key : String}

/-- Details that say the same hold the same under each name. -/
theorem exists_lookup_of_same (h : Details.same a b = true) {detail : Detail}
    (hmem : (key, detail) ∈ a) : ∃ other, b.lookup key = some other ∧ detail.same other = true := by
  unfold same at h
  obtain ⟨-, hall⟩ := Bool.and_eq_true_iff.1 h
  exact (Option.any_eq_true _ _).1 (List.all_eq_true.1 hall (key, detail) hmem)

/-- Details that say the same hold the same numbers. -/
theorem number_eq_of_same (h : Details.same a b = true) {m n : Int}
    (ha : (key, Detail.number m) ∈ a) (hb : b.lookup key = some (.number n)) : m = n := by
  obtain ⟨other, hother, hsame⟩ := exists_lookup_of_same h ha
  obtain rfl : Detail.number n = other := Option.some.inj (hb.symm.trans hother)
  simpa using hsame

end Details

namespace Diagnostic

variable {d e : Diagnostic} {p q : Position}

/-- Problems that say the same are of one kind and at one position, with details that say the
same. -/
theorem and_of_same (h : d.same e = true) :
    d.kind = e.kind ∧ d.position = e.position ∧ Details.same d.details e.details = true := by
  unfold same at h
  simp only [Bool.and_eq_true, decide_eq_true_eq] at h
  exact ⟨h.1.1.1, h.1.1.2, h.1.2⟩

/-- Misplaced pieces of edges that say the same stand at one place and belong to one column. -/
theorem eq_of_same_misalignedPipe {expected expected' actual actual' : Int}
    (h : (misalignedPipe p expected actual).same (misalignedPipe q expected' actual') = true) :
    p = q ∧ expected = expected' := by
  obtain ⟨-, hposition, hdetails⟩ := and_of_same h
  have hmem : ("expected_col", Detail.number expected) ∈
      (misalignedPipe p expected actual).details := .head _
  exact ⟨hposition, Details.number_eq_of_same hdetails hmem rfl⟩

/-- Problems with content that say the same are about one content at one place. -/
theorem eq_of_same_syntaxError {kind kind' : Diagnostic.Kind} {content content' : String}
    (h : (syntaxError kind p content).same (syntaxError kind' q content') = true) :
    p = q ∧ content = content' := by
  obtain ⟨-, hposition, hdetails⟩ := and_of_same h
  obtain ⟨other, hother, hsame⟩ := Details.exists_lookup_of_same hdetails
    (show ("content", Detail.text content) ∈ (syntaxError kind p content).details from .head _)
  obtain rfl : Detail.text content' = other := Option.some.inj hother
  refine ⟨hposition, ?_⟩
  simpa [Detail.text, Detail.same, Scalar.same, Scalar.numeric?] using hsame

/-- Edges that do not match and say the same end at the same four places. -/
theorem eq_of_same_mismatchedWidth
    {topWidth bottomWidth right bottom bottomLeft bottomRight : Int}
    {topWidth' bottomWidth' right' bottom' bottomLeft' bottomRight' : Int}
    (h : (mismatchedWidth p topWidth bottomWidth right bottom bottomLeft bottomRight).same
      (mismatchedWidth q topWidth' bottomWidth' right' bottom' bottomLeft' bottomRight') = true) :
    p = q ∧ right = right' ∧ bottom = bottom' ∧ bottomLeft = bottomLeft' ∧
      bottomRight = bottomRight' := by
  obtain ⟨-, hposition, hdetails⟩ := and_of_same h
  have hnumber : ∀ (key : String) (m n : Int),
      (key, Detail.number m) ∈ (mismatchedWidth p topWidth bottomWidth right bottom bottomLeft
        bottomRight).details →
      (mismatchedWidth q topWidth' bottomWidth' right' bottom' bottomLeft'
        bottomRight').details.lookup key = some (.number n) → m = n :=
    fun key m n => Details.number_eq_of_same hdetails
  refine ⟨hposition, hnumber "top_right_col" _ _ ?_ rfl, hnumber "bottom_row" _ _ ?_ rfl,
    hnumber "bottom_left_col" _ _ ?_ rfl, hnumber "bottom_right_col" _ _ ?_ rfl⟩ <;>
  simp [mismatchedWidth, ofDetails, Kind.detailNames]

end Diagnostic

namespace Repair.Strategy

open Text (charAt?)

variable {strategies : List Strategy} {lines repaired : List Line} {e : Diagnostic}

/-! ## Edited lines -/

/-- No tab is left. -/
theorem tab_not_mem_expandTabs (width : Int) (line : Line) : '\t' ∉ expandTabs width line := by
  intro hmem
  obtain ⟨c, -, hc⟩ := List.mem_flatMap.1 hmem
  split at hc
  · exact absurd (List.eq_of_mem_replicate hc) (by decide)
  · next hne => exact hne (List.mem_singleton.1 hc).symm

/-- A piece of an edge that was moved stands in its old column no more, or in its new one. -/
theorem getElem?_movePipe {line moved : Line} {expected actual : Nat}
    (h : movePipe line expected actual = some moved) :
    moved[actual]? = some ' ' ∨ moved[expected]? = some '|' := by
  obtain ⟨hpiece, hmoved⟩ := movePipe_eq_some h
  have hactual : actual < line.length := (List.getElem?_eq_some_iff.1 hpiece).1
  rcases hmoved with ⟨hlt, rfl⟩ | ⟨hlt, rfl, -⟩
  · -- Spaces were put in at the old column.
    have hlength : (line.take actual).length = actual := by
      rw [List.length_take]
      omega
    refine .inl ?_
    rw [List.append_assoc, List.getElem?_append_right (by omega), hlength, Nat.sub_self,
      List.getElem?_append_left (by simpa using hlt), List.getElem?_replicate, if_pos (by omega)]
  · -- What stood in the old column now follows what stands in front of the new one.
    have hlength : (line.take expected).length = expected := by
      rw [List.length_take]
      omega
    refine .inr ?_
    rw [List.getElem?_append_right (by omega), hlength, Nat.sub_self, List.getElem?_drop,
      Nat.add_zero, hpiece]

/-- A bracket that was closed is followed by its content, a space and the closing bracket. -/
theorem getElem?_closeBracket {line closed content : Line} {col : Nat} (hcontent : content ≠ [])
    (h : closeBracket line col content = some closed) :
    closed[col + content.length]? = some ' ' ∧ closed[col + content.length + 1]? = some ']' := by
  obtain ⟨hlength, gap, rest, -, -, rfl⟩ := closeBracket_eq_some hcontent h
  have htake : (line.take (col + content.length)).length = col + content.length := by
    rw [List.length_take]
    omega
  have hbehind : ∀ i, (line.take (col + content.length) ++ [' ', ']'] ++
      rest)[col + content.length + i]? = (' ' :: ']' :: rest)[i]? := by
    intro i
    rw [List.append_assoc, List.getElem?_append_right (by omega), htake, Nat.add_sub_cancel_left]
    rfl
  exact ⟨hbehind 0, hbehind 1⟩

/-! ## Aligned corners -/

/-- Where a corner was moved away, a dash is left. -/
theorem dash_of_extendRow {row old new : Nat} (hne : old ≠ new)
    (h : extendRow lines row old new = some repaired) :
    charAt? repaired ⟨row, old⟩ = some '-' := by
  obtain ⟨r, line, moved, hr, hline, hmoved, rfl⟩ := exists_of_extendRow h
  obtain rfl : row = r := Int.ofNat.inj hr
  obtain ⟨-, -, hchars⟩ := getElem?_extendEdge hmoved
  rw [charAt?_setLine hline, hchars, if_neg hne, if_pos (by omega)]

/-- A dash stays when a corner is moved. -/
theorem dash_extendRow {p : Position} {row old new : Nat} (hdash : charAt? lines p = some '-')
    (h : extendRow lines row old new = some repaired) : charAt? repaired p = some '-' := by
  obtain ⟨r, line, moved, hr, hline, hmoved, rfl⟩ := exists_of_extendRow h
  obtain rfl : row = r := Int.ofNat.inj hr
  obtain ⟨other, col, old', rfl, hother, hdash'⟩ := Text.charAt?_eq_some_iff.1 hdash
  by_cases hrow : other = row
  · obtain rfl := hrow
    obtain rfl : line = old' := Option.some.inj (hline.symm.trans hother)
    obtain ⟨hcorner, hspaces, hchars⟩ := getElem?_extendEdge hmoved
    have hpadded : (Text.padRight (max old new + 1) line)[col]? = some '-' := by
      rw [Text.padRight, List.getElem?_append_left (List.getElem?_eq_some_iff.1 hdash').1, hdash']
    rw [charAt?_setLine hline, hchars]
    by_cases hnew : col = new
    · -- The corner was moved over spaces only.
      subst hnew
      by_cases hold : col = old
      · subst hold
        rw [hcorner] at hpadded
        simp at hpadded
      · rw [hspaces col (by omega) (by omega) hold] at hpadded
        simp at hpadded
    · rw [if_neg hnew]
      split
      · rfl
      · exact hpadded
  · rw [charAt?_setLine_of_ne hrow, hdash]

namespace Corners

variable {topRow bottomRow top bottom : Nat}

/-- A dash stays when two corners are aligned. -/
theorem dash_aligns {p : Position} (hdash : charAt? lines p = some '-')
    (h : Aligns topRow bottomRow (differing top bottom) lines repaired) :
    charAt? repaired p = some '-' := by
  rcases h.eq_or_extendRow with ⟨-, rfl⟩ | ⟨-, htop | hbottom⟩
  · exact hdash
  · exact dash_extendRow hdash htop
  · exact dash_extendRow hdash hbottom

/-- When two corners that differ are aligned, a dash is left in the place of one of them. -/
theorem dash_of_aligns (hne : differing top bottom ≠ none)
    (h : Aligns topRow bottomRow (differing top bottom) lines repaired) :
    charAt? repaired ⟨topRow, top⟩ = some '-' ∨
      charAt? repaired ⟨bottomRow, bottom⟩ = some '-' := by
  rcases h.eq_or_extendRow with ⟨hnone, -⟩ | ⟨hdiffer, htop | hbottom⟩
  · exact absurd hnone hne
  · exact .inl (dash_of_extendRow (by omega) htop)
  · exact .inr (dash_of_extendRow (by omega) hbottom)

/-- When edges are aligned, a dash is left in the place of one of the four corners. -/
theorem dash_of_align {top left right bottom bottomLeft bottomRight : Nat}
    (h : Corners.align
      ⟨top, bottom, differing left bottomLeft, differing right bottomRight⟩ lines = some repaired) :
    (charAt? repaired ⟨top, left⟩ = some '-' ∨ charAt? repaired ⟨bottom, bottomLeft⟩ = some '-') ∨
      charAt? repaired ⟨top, right⟩ = some '-' ∨
        charAt? repaired ⟨bottom, bottomRight⟩ = some '-' := by
  obtain ⟨hdiffer, half, hleft, hright⟩ := exists_of_align h
  rcases hdiffer with hne | hne
  · -- The dash that is left on the left stays when the right corners are aligned.
    have hdash := dash_of_aligns hne hleft
    exact .inl (hdash.imp (dash_aligns · hright) (dash_aligns · hright))
  · exact .inr (dash_of_aligns hne hright)

end Corners

/-! ## Repaired problems -/

/-- Once a problem is repaired, no problem that says the same applies. -/
theorem not_applies_of_repaired {d : Diagnostic} (h : Repaired strategies lines d repaired)
    (hsame : d.same e = true) : ¬ e.Applies repaired := by
  intro happlies
  obtain ⟨hkind, hposition, -⟩ := Diagnostic.and_of_same hsame
  cases happlies with
  | tab row col tabCol snippet htab =>
    cases h with
    | tab row' col' width snippet' line hwidth hline =>
      obtain rfl : (row' : Int) = row := congrArg Position.row hposition
      obtain ⟨r, c, -, hplace, -, -⟩ := Text.charAt?_eq_some_iff.1 htab
      obtain ⟨-, rfl⟩ := Position.mk.inj hplace
      rw [charAt?_setLine hline] at htab
      exact tab_not_mem_expandTabs width line (List.mem_of_getElem? htab)
    | _ => cases hkind
  | pipe row expected actual hpiece hmissing _ =>
    cases h with
    | pipe row' expected' actual' line moved hline hmoved =>
      obtain ⟨hplace, rfl⟩ := Diagnostic.eq_of_same_misalignedPipe hsame
      obtain ⟨rfl, rfl⟩ := Position.mk.inj hplace
      rw [charAt?_setLine hline] at hpiece hmissing
      rcases getElem?_movePipe hmoved with hspace | hthere
      · rw [hspace] at hpiece
        simp at hpiece
      · exact hmissing hthere
    | _ => cases hkind
  | width top left right bottom bottomLeft bottomRight _ _ h1 h2 h3 h4 =>
    cases h with
    | width top' left' right' bottom' bottomLeft' bottomRight' _ _ _ haligned =>
      obtain ⟨hplace, rfl, rfl, rfl, rfl⟩ := Diagnostic.eq_of_same_mismatchedWidth hsame
      obtain ⟨rfl, rfl⟩ := Position.mk.inj hplace
      rcases Corners.dash_of_align haligned with (hdash | hdash) | hdash | hdash
      · simp [h1] at hdash
      · simp [h3] at hdash
      · simp [h2] at hdash
      · simp [h4] at hdash
    | _ => cases hkind
  | bracket row col content _ _ hopen =>
    cases h with
    | bracket row' col' edge content' line closed hcontent hbehind hedge hline hclosed =>
      obtain ⟨hplace, htext⟩ := Diagnostic.eq_of_same_syntaxError hsame
      obtain ⟨hrow, hcol⟩ := Position.mk.inj hplace
      obtain rfl : row' = row := Int.ofNat.inj hrow
      obtain rfl : col' = col := Int.ofNat.inj hcol
      obtain rfl : content' = content := String.ofList_injective htext
      have hstop : (col' : Int) + content'.length = (col' + content'.length : Nat) := by omega
      rw [hstop, ← Int.natCast_succ, charAt?_setLine hline, charAt?_setLine hline] at hopen
      exact hopen (getElem?_closeBracket hcontent hclosed)
    | _ => cases hkind
  | other _ hother =>
    rw [← hkind] at hother
    cases h <;> cases hother

end Repair.Strategy

/-! ## Steps -/

namespace Repair.Settings

variable {s : Settings}

/-- Texts that follow one another in steps, each of which resolves the problem that it lists: the
problem is found in the text before the step, and none that says the same in the text behind it. -/
inductive Resolving (s : Settings) : String → List Change → String → Prop where
  /-- No step. -/
  | none (text : String) : Resolving s text [] text
  /-- A step and those behind it. -/
  | cons (text edited last : String) (change : Change) (changes : List Change)
    (hstep : s.step text = some (edited, change))
    (hfound : change.problem ∈ s.problems text)
    (hgone : ∀ d ∈ s.problems edited, change.problem.same d = false)
    (hrest : Resolving s edited changes last) : Resolving s text (change :: changes) last

/-- No problem of the text behind a step says the same as the one that the step lists. -/
theorem same_eq_false_of_step {text edited : String} {change : Change}
    (h : s.step text = some (edited, change)) {d : Diagnostic} (hd : d ∈ s.problems edited) :
    change.problem.same d = false :=
  Bool.eq_false_iff.2 fun hsame => Strategy.not_applies_of_repaired (repaired_of_step h) hsame
    (Config.applies_of_mem_diagnostics hd)

/-- Steps resolve the problems that they list. -/
theorem Steps.resolving {text last : String} {changes : List Change}
    (h : s.Steps text changes last) : s.Resolving text changes last := by
  induction h with
  | none text => exact .none text
  | cons text edited last change changes hstep _ ih =>
    obtain ⟨strategy, e, hedits⟩ := edits_of_step hstep
    exact .cons text edited last change changes hstep hedits.found
      (fun d hd => same_eq_false_of_step hstep hd) ih

/-- Repair goes from its text, with line ends unified, in steps that resolve the problems that they
list. If it ends, these are the changes that it lists, and no step can be made from the text that it
gives; if it is given up, there is one step for each text that may be read. -/
theorem repair_resolves (s : Settings) (text : String) :
    ∃ changes last,
      s.Resolving (String.ofList (Text.unifyNewlines text.toList)) changes last ∧
        match s.repair text with
        | .ok o => o.changes = changes ∧ o.text = last ∧ s.step last = none
        | .error _ => changes.length = s.maxRounds := by
  cases hrepair : s.repair text with
  | ok o =>
    obtain ⟨hbefore, -, hdone, hsteps⟩ := steps_of_repair hrepair
    rw [hbefore] at hsteps
    exact ⟨o.changes, o.text, hsteps.resolving, rfl, rfl, hdone⟩
  | error e =>
    obtain ⟨changes, last, hlength, hsteps⟩ := steps_of_repair_error hrepair
    exact ⟨changes, last, hsteps.resolving, hlength⟩

end Repair.Settings

end Wireframe
