import Mathlib.Tactic.ByContra
import Wireframe.Proofs.Repair.Ink

/-!
# Repairing a text again

A text that came out of repair has no problem left that can be repaired, so repairing it again gives
it back, unless its line ends change when they are unified once more. Line ends are unified in one
pass: of two carriage returns in front of a line feed one is left, and the next pass drops that one
too. `repair_again` says when this happens. No edit puts a carriage return at the end of a line or
takes one away from there (`keptByEdits_endsAlike`), so it can be told from the text that is given,
and no edit adds or drops a carriage return, so the second repair cannot put the dropped one back.
-/

namespace Wireframe

namespace Text

/-! ## Unifying line ends -/

/-- A text in which no carriage return stands in front of a line feed stays as it is. -/
theorem unifyNewlines_eq_self_of_not_infix {cs : List Char} (h : ¬ ['\r', '\n'] <:+: cs) :
    unifyNewlines cs = cs := by
  induction cs with
  | nil => rfl
  | cons c cs ih =>
    rw [List.infix_cons_iff, not_or] at h
    have hkeep : ¬ (c = '\r' ∧ cs.head? = some '\n') := by
      rintro ⟨rfl, hhead⟩
      obtain ⟨rest, rfl⟩ := List.head?_eq_some_iff.1 hhead
      exact h.1 ⟨rest, rfl⟩
    rw [unifyNewlines, if_neg hkeep, ih h.2]

/-- Unifying line ends adds no carriage return. -/
theorem count_unifyNewlines_le (cs : List Char) :
    (unifyNewlines cs).count '\r' ≤ cs.count '\r' := by
  induction cs with
  | nil => exact Nat.le_refl _
  | cons c cs ih =>
    rw [unifyNewlines, List.count_cons]
    split
    · omega
    · rw [List.count_cons]
      omega

/-- Unifying line ends drops a carriage return when one stands in front of a line feed. -/
theorem count_unifyNewlines_lt {cs : List Char} (h : ['\r', '\n'] <:+: cs) :
    (unifyNewlines cs).count '\r' < cs.count '\r' := by
  induction cs with
  | nil => simp at h
  | cons c cs ih =>
    by_cases hdrop : c = '\r' ∧ cs.head? = some '\n'
    · have hle := count_unifyNewlines_le cs
      rw [unifyNewlines, if_pos hdrop, hdrop.1, List.count_cons_self]
      omega
    · have hrest : ['\r', '\n'] <:+: cs := by
        rcases List.infix_cons_iff.1 h with hfirst | hrest
        · obtain ⟨rest, hrest⟩ := hfirst
          obtain ⟨rfl, rfl⟩ := List.cons.inj hrest
          exact absurd ⟨rfl, rfl⟩ hdrop
        · exact hrest
      have hlt := ih hrest
      rw [unifyNewlines, if_neg hdrop, List.count_cons, List.count_cons]
      omega

/-- With line ends unified a text begins with a line feed if it began with one or with a carriage
return in front of one. -/
theorem head?_unifyNewlines_iff {cs : List Char} :
    (unifyNewlines cs).head? = some '\n' ↔ cs.head? = some '\n' ∨ ['\r', '\n'] <+: cs := by
  cases cs with
  | nil => simp [unifyNewlines]
  | cons c cs =>
    by_cases hdrop : c = '\r' ∧ cs.head? = some '\n'
    · obtain ⟨rfl, hhead⟩ := hdrop
      obtain ⟨rest, rfl⟩ := List.head?_eq_some_iff.1 hhead
      simp [unifyNewlines]
    · have hnot : ¬ ['\r', '\n'] <+: c :: cs := by
        rintro ⟨rest, hrest⟩
        obtain ⟨rfl, rfl⟩ := List.cons.inj hrest
        exact hdrop ⟨rfl, rfl⟩
      rw [unifyNewlines, if_neg hdrop]
      simp [hnot]

/-- A carriage return is left in front of a line feed exactly where there were two. -/
theorem infix_unifyNewlines_iff {cs : List Char} :
    ['\r', '\n'] <:+: unifyNewlines cs ↔ ['\r', '\r', '\n'] <:+: cs := by
  induction cs with
  | nil => simp [unifyNewlines]
  | cons c cs ih =>
    have hhead : ∀ ds : List Char, ['\n'] <+: ds ↔ ds.head? = some '\n' := by
      intro ds
      cases ds <;> simp [eq_comm]
    by_cases hdrop : c = '\r' ∧ cs.head? = some '\n'
    · obtain ⟨rfl, hfeed⟩ := hdrop
      obtain ⟨rest, rfl⟩ := List.head?_eq_some_iff.1 hfeed
      rw [unifyNewlines, if_pos ⟨rfl, rfl⟩, ih]
      simp [List.infix_cons_iff]
    · have hfirst : ['\r', '\n'] <+: c :: unifyNewlines cs ↔ ['\r', '\r', '\n'] <+: c :: cs := by
        rw [List.cons_prefix_cons, List.cons_prefix_cons, hhead, head?_unifyNewlines_iff]
        constructor
        · rintro ⟨rfl, hfeed | hreturn⟩
          · exact absurd ⟨rfl, hfeed⟩ hdrop
          · exact ⟨rfl, hreturn⟩
        · rintro ⟨hc, hreturn⟩
          exact ⟨hc, .inr hreturn⟩
      rw [unifyNewlines, if_neg hdrop, List.infix_cons_iff, List.infix_cons_iff, ih, hfirst]

/-! ## Ends of lines -/

/-- Both lines end in a carriage return, or neither does. -/
def EndsAlike (a b : Line) : Prop := a.getLast? = some '\r' ↔ b.getLast? = some '\r'

/-- A carriage return stands in front of the first line feed if the first line ends in one. -/
theorem infix_append_newline_iff {line cs : List Char} (h : '\n' ∉ line) :
    ['\r', '\n'] <:+: line ++ '\n' :: cs ↔
      line.getLast? = some '\r' ∨ ['\r', '\n'] <:+: cs := by
  induction line with
  | nil => simp [List.infix_cons_iff]
  | cons c line ih =>
    rw [List.mem_cons, not_or] at h
    rw [List.cons_append, List.infix_cons_iff, ih h.2]
    cases line with
    | nil => simp [eq_comm]
    | cons d line =>
      have hd : d ≠ '\n' := fun hd => h.2 (by simp [hd])
      simp [List.cons_prefix_cons, Ne.symm hd]

/-- A text of lines that end alike has carriage returns in front of line feeds if the other has. -/
theorem infix_unlines_iff {before after : List Line} (h : List.Forall₂ EndsAlike before after)
    (hbefore : ∀ l ∈ before, '\n' ∉ l) (hafter : ∀ l ∈ after, '\n' ∉ l) :
    ['\r', '\n'] <:+: unlines before ↔ ['\r', '\n'] <:+: unlines after := by
  have hsingle : ∀ l : Line, '\n' ∉ l → ¬ ['\r', '\n'] <:+: unlines [l] := fun l hl hreturn =>
    hl (List.IsInfix.subset hreturn (by simp))
  induction h with
  | nil => rfl
  | @cons a b before after hends hrest ih =>
    rw [List.forall_mem_cons] at hbefore hafter
    cases hrest with
    | nil =>
      exact iff_of_false (hsingle a hbefore.1) (hsingle b hafter.1)
    | cons hnext hlater =>
      rw [unlines_cons a (List.cons_ne_nil _ _), unlines_cons b (List.cons_ne_nil _ _),
        infix_append_newline_iff hbefore.1, infix_append_newline_iff hafter.1]
      exact or_congr hends (ih hbefore.2 hafter.2)

/-! ## Carriage returns -/

/-- Only dashes and closing brackets are put in. -/
theorem KeepsInk.count_return {before after : Line} (h : KeepsInk before after) :
    before.count '\r' = after.count '\r' := by
  have hink : ∀ line : Line, (ink line).count '\r' = line.count '\r' := fun line =>
    List.count_filter rfl
  have hextends : ∀ a b : Line, Extends a b → a.count '\r' = b.count '\r' := by
    intro a b hab
    induction hab with
    | nil => rfl
    | keep c before after _ ih => rw [List.count_cons, List.count_cons, ih]
    | put c before after hc _ ih =>
      have hne : c ≠ '\r' := by
        rintro rfl
        simp at hc
      rw [List.count_cons_of_ne hne, ih]
  rw [← hink before, ← hink after]
  exact hextends _ _ h

/-- Lines that keep their ink keep their carriage returns. -/
theorem count_return_unlines {before after : List Line} (h : List.Forall₂ KeepsInk before after) :
    (unlines before).count '\r' = (unlines after).count '\r' := by
  induction h with
  | nil => rfl
  | @cons a b before after hline hrest ih =>
    cases hrest with
    | nil => exact hline.count_return
    | cons hnext hlater =>
      rw [unlines_cons a (List.cons_ne_nil _ _), unlines_cons b (List.cons_ne_nil _ _),
        List.count_append, List.count_append, List.count_cons, List.count_cons, ih,
        hline.count_return]

end Text

/-! ## Edits -/

namespace Repair.Strategy

open Text (EndsAlike)

/-- What stands behind the last part of a line does not count for its end. -/
theorem endsAlike_append_drop (front : Line) {line : Line} {n : Nat} (h : n < line.length) :
    EndsAlike line (front ++ line.drop n) := by
  have hne : line.drop n ≠ [] := by
    rw [ne_eq, List.drop_eq_nil_iff]
    omega
  rw [EndsAlike, List.getLast?_append_of_ne_nil _ hne, List.getLast?_drop, if_neg (by omega)]

/-- Expanding tabs into at least one space each leaves the end of a line alike. -/
theorem endsAlike_expandTabs {width : Int} (hwidth : 0 < width) (line : Line) :
    EndsAlike line (expandTabs width line) := by
  rcases List.eq_nil_or_concat line with rfl | ⟨front, c, rfl⟩
  · rfl
  · have hconcat : expandTabs width (front ++ [c]) =
        expandTabs width front ++ if c = '\t' then spaces width else [c] := by
      simp [expandTabs]
    by_cases htab : c = '\t'
    · obtain ⟨n, hn⟩ : ∃ n, width.toNat = n + 1 := ⟨width.toNat - 1, by omega⟩
      rw [EndsAlike, List.concat_eq_append, hconcat, if_pos htab, htab, spaces, hn]
      simp [List.getLast?_replicate]
    · rw [EndsAlike, List.concat_eq_append, hconcat, if_neg htab, List.getLast?_concat,
        List.getLast?_concat]

/-- Moving a piece of an edge leaves the end of its line alike. -/
theorem endsAlike_movePipe {line moved : Line} {expected actual : Nat}
    (h : movePipe line expected actual = some moved) : EndsAlike line moved := by
  obtain ⟨hpiece, ⟨-, rfl⟩ | ⟨-, rfl, -⟩⟩ := movePipe_eq_some h
  · exact endsAlike_append_drop _ (List.getElem?_eq_some_iff.1 hpiece).1
  · exact endsAlike_append_drop _ (List.getElem?_eq_some_iff.1 hpiece).1

/-- Closing a bracket in front of an edge leaves the end of its line alike. -/
theorem endsAlike_closeBracket {chars closed content : Line} {col edge : Nat}
    (hcontent : content ≠ []) (hbehind : col + content.length ≤ edge)
    (hedge : chars[edge]? = some '|') (h : closeBracket chars col content = some closed) :
    EndsAlike chars closed := by
  obtain ⟨-, gap, rest, hdrop, hgap, rfl⟩ := closeBracket_eq_some hcontent h
  -- The edge does not belong to the spaces that give way.
  have hrest : rest ≠ [] := by
    rintro rfl
    have hmem : '|' ∈ gap := by
      have hpipe : (chars.drop (col + content.length))[edge - (col + content.length)]? =
          some '|' := by
        rw [List.getElem?_drop, ← hedge]
        congr 1
        omega
      rw [hdrop, List.append_nil] at hpipe
      exact List.mem_of_getElem? hpipe
    exact absurd (hgap _ hmem) (by decide)
  have hline : chars = chars.take (col + content.length) ++ gap ++ rest := by
    rw [List.append_assoc, ← hdrop, List.take_append_drop]
  rw [EndsAlike, hline, List.getLast?_append_of_ne_nil _ hrest,
    List.getLast?_append_of_ne_nil _ hrest]

/-- A line is only made longer for a corner to fit on it. -/
theorem length_extendEdge {line extended : Line} {old new : Nat}
    (h : extendEdge line old new = some extended) :
    extended.length = max line.length (max old new + 1) := by
  have hsame : extended.length = (Text.padRight (max old new + 1) line).length := by
    obtain ⟨before, after, k, ⟨-, -, hpadded, rfl⟩ | ⟨-, -, hpadded, rfl⟩⟩ := extendEdge_eq_some h
    · simp [hpadded, Nat.add_assoc]
    · simp [hpadded, Nat.add_assoc]
  rw [hsame, Text.length_padRight, Nat.max_comm]

/-- Moving a corner leaves the end of its line alike. -/
theorem endsAlike_extendEdge {chars extended : Line} {old new : Nat}
    (h : extendEdge chars old new = some extended) : EndsAlike chars extended := by
  have hlength := length_extendEdge h
  obtain ⟨hcorner, hspaces, hchars⟩ := getElem?_extendEdge h
  have hpadded : ∀ i, i < chars.length →
      (Text.padRight (max old new + 1) chars)[i]? = chars[i]? := fun i hi => by
    rw [Text.padRight, List.getElem?_append_left hi]
  rw [EndsAlike, List.getLast?_eq_getElem?, List.getLast?_eq_getElem?]
  rcases Nat.lt_or_ge (max old new + 1) chars.length with hlong | hshort
  · -- The end lies behind both columns.
    have hlast : extended.length - 1 = chars.length - 1 := by omega
    rw [hlast, hchars, if_neg (by omega), if_neg (by omega), hpadded _ (by omega)]
  · -- Both lines end in what the edge was made of or is made of now.
    have hold : old < chars.length := by
      by_contra hge
      rw [Text.padRight, List.getElem?_append_right (by omega)] at hcorner
      have hmem := List.mem_of_getElem? hcorner
      exact absurd (List.eq_of_mem_replicate hmem) (by decide)
    have hbefore : chars[chars.length - 1]? ≠ some '\r' := by
      rw [← hpadded _ (by omega)]
      by_cases hcol : chars.length - 1 = old
      · simp [hcol, hcorner]
      · simp [hspaces _ (by omega) (by omega) hcol]
    have hafter : extended[extended.length - 1]? ≠ some '\r' := by
      rw [hchars]
      split
      · simp
      · rw [if_pos (by omega)]
        simp
    exact iff_of_false hbefore hafter

/-- Every edit leaves the end of its line alike, if tabs are at least one column wide. -/
theorem keptByEdits_endsAlike {strategies : List Strategy}
    (hwidth : ∀ width, .tab width ∈ strategies → 0 < width) :
    KeptByEdits strategies EndsAlike where
  refl _ := Iff.rfl
  trans _ _ _ := Iff.trans
  tab width line hmem := endsAlike_expandTabs (hwidth width hmem) line
  pipe _ _ _ _ := endsAlike_movePipe
  bracket _ _ _ _ _ := endsAlike_closeBracket
  corner _ _ _ _ := endsAlike_extendEdge

end Repair.Strategy

/-! ## Repairing again -/

namespace Repair.Settings

open Text (KeepsInk)

variable {s : Settings} {text : String} {o : Outcome}

/-- The carriage returns of a text stay in all steps. -/
theorem Steps.count_return {last : String} {changes : List Change}
    (h : s.Steps text changes last) : text.toList.count '\r' = last.toList.count '\r' := by
  have hkept := Text.count_return_unlines
    (h.forall₂ (Strategy.keptByEdits_keepsInk s.strategies))
  rwa [Text.unlines_lines, Text.unlines_lines] at hkept

/-- Steps leave carriage returns in front of line feeds exactly if the text has such. -/
theorem Steps.infix_iff {last : String} {changes : List Change} (h : s.Steps text changes last)
    (hwidth : ∀ width, .tab width ∈ s.strategies → 0 < width) :
    ['\r', '\n'] <:+: text.toList ↔ ['\r', '\n'] <:+: last.toList := by
  have hlines := Text.infix_unlines_iff (h.forall₂ (Strategy.keptByEdits_endsAlike hwidth))
    (fun _ => Text.newline_not_mem_of_mem_lines) (fun _ => Text.newline_not_mem_of_mem_lines)
  rwa [Text.unlines_lines, Text.unlines_lines] at hlines

/-- A repair that ends reads at least one text. -/
theorem maxRounds_pos (h : s.repair text = .ok o) : 0 < s.maxRounds := by
  rcases Nat.eq_zero_or_pos s.maxRounds with hzero | hpos
  · rw [repair, hzero] at h
    exact absurd h (by simp [run, Except.mapError])
  · exact hpos

/-- A text with unified line ends from which no step can be made is what its repair gives. -/
theorem repair_of_step_eq_none (hrounds : 0 < s.maxRounds) (hstep : s.step text = none)
    (hreturn : ¬ ['\r', '\n'] <:+: text.toList) :
    s.repair text = .ok ⟨text, text, [], s.problems text⟩ := by
  obtain ⟨rounds, hrounds⟩ : ∃ rounds, s.maxRounds = rounds + 1 := ⟨s.maxRounds - 1, by omega⟩
  have hrun : s.run text [] [] s.maxRounds text = .ok ⟨text, text, [], s.problems text⟩ := by
    rw [hrounds]
    unfold run
    dsimp only
    rw [show s.firstRepair text (s.problems text) = none from hstep]
  unfold repair
  rw [Text.unifyNewlines_eq_self_of_not_infix hreturn, String.ofList_toList]
  exact congrArg (Except.mapError _) hrun

/-- What repair gave is given again with the same problems and without changes, unless a carriage
return stands in front of a line feed in it; then another repair, if it ends, gives another text.
With tabs of at least one column, this is so exactly if two carriage returns stand in front of a
line feed in the text that was repaired first. -/
theorem repair_again (s : Settings) (text : String) (o : Outcome) (h : s.repair text = .ok o) :
    (¬ ['\r', '\n'] <:+: o.text.toList →
      s.repair o.text = .ok ⟨o.text, o.text, [], o.remaining⟩) ∧
    (['\r', '\n'] <:+: o.text.toList → ∀ o', s.repair o.text = .ok o' → o'.text ≠ o.text) ∧
    ((∀ width, .tab width ∈ s.strategies → 0 < width) →
      (['\r', '\n'] <:+: o.text.toList ↔ ['\r', '\r', '\n'] <:+: text.toList)) := by
  obtain ⟨hbefore, hremaining, hdone, hsteps⟩ := steps_of_repair h
  refine ⟨fun hreturn => ?_, fun hreturn o' h' hsame => ?_, fun hwidth => ?_⟩
  · rw [repair_of_step_eq_none (maxRounds_pos h) hdone hreturn, hremaining]
  · -- The carriage return that is dropped first is not put back.
    obtain ⟨hbefore', -, -, hsteps'⟩ := steps_of_repair h'
    have hcount := hsteps'.count_return
    rw [hbefore', hsame, String.toList_ofList] at hcount
    have hlt := Text.count_unifyNewlines_lt hreturn
    omega
  · rw [← hsteps.infix_iff hwidth, hbefore, String.toList_ofList, Text.infix_unifyNewlines_iff]

/-- Carriage returns in front of line feeds, alone on a line and at the end, in a text with a tab,
an open bracket and a line of dashes without a corner. -/
def carriageReturns : String := "+------+\r\n|\tx   |\n| [b   |\r\n+------+\n\r+--\r"

/-- The tab and the bracket are repaired and the line of dashes is left; once the carriage returns
in front of line feeds are gone, nothing more is changed. -/
theorem repair_again_carriage_returns :
    ∃ o, default.repair carriageReturns = .ok o ∧
      o.text = "+------+\n|  x   |\n| [b ] |\n+------+\n\r+--\r" ∧
      default.repair o.text = .ok ⟨o.text, o.text, [], o.remaining⟩ := by
  have htext : (default.repair carriageReturns).toOption.map (·.text) =
      some "+------+\n|  x   |\n| [b ] |\n+------+\n\r+--\r" := by
    decide +kernel
  cases hrepair : default.repair carriageReturns with
  | error e =>
    rw [hrepair] at htext
    simp [Except.toOption] at htext
  | ok o =>
    rw [hrepair] at htext
    have hsame := Option.some.inj htext
    obtain ⟨hagain, -, hiff⟩ := repair_again default _ o hrepair
    have hwidth : ∀ width, Strategy.tab width ∈ default.strategies → 0 < width := by
      simp [default, defaultStrategies]
    refine ⟨o, rfl, hsame, hagain fun hreturn => ?_⟩
    exact absurd ((hiff hwidth).1 hreturn) (by decide +kernel)

/-- Two carriage returns in front of a line feed: the first repair leaves one of them, and the
second one none. -/
theorem repair_drops_returns_one_by_one :
    (default.repair "\r\r\n").toOption.map (·.text) = some "\r\n" ∧
      (default.repair "\r\n").toOption.map (·.text) = some "\n" := by
  decide +kernel

end Repair.Settings

end Wireframe
