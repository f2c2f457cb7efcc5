import Wireframe.Proofs.Repair.Kept
import Wireframe.Proofs.Repair.Steps

/-!
# Repair keeps what is written

The ink of a line is what is neither space nor tab. Repair neither adds nor drops a line, and on
each line all ink stays in its order; dashes and closing brackets may be put in between, and nothing
else (`repair_keepsInk`).

Each strategy keeps the ink of the line that it edits. For an edge that is made longer this holds
since the corner moves over spaces only, and leaves dashes behind.
-/

namespace Wireframe

namespace Text

/-- The characters of a line other than spaces and tabs. -/
def ink (line : Line) : Line := line.filter fun c => c != ' ' && c != '\t'

/-- The second line is the first one with dashes and closing brackets put in. -/
inductive Extends : Line → Line → Prop where
  /-- Nothing to put them into. -/
  | nil : Extends [] []
  /-- The first character stays. -/
  | keep (c : Char) (before after : Line) (h : Extends before after) :
    Extends (c :: before) (c :: after)
  /-- A dash or a closing bracket is put in front. -/
  | put (c : Char) (before after : Line) (hc : c = '-' ∨ c = ']') (h : Extends before after) :
    Extends before (c :: after)

/-- The ink of the first line is that of the second one but for dashes and closing brackets that
were put in. -/
def KeepsInk (before after : Line) : Prop := Extends (ink before) (ink after)

namespace Extends

variable {a b c d : Line}

/-- Nothing has to be put in. -/
theorem refl (line : Line) : Extends line line := by
  induction line with
  | nil => exact .nil
  | cons c line ih => exact .keep c line line ih

/-- What is put in may be more and more. -/
theorem trans (hab : Extends a b) (hbc : Extends b c) : Extends a c := by
  induction hbc generalizing a with
  | nil => exact hab
  | keep x before after hbc ih =>
    cases hab with
    | keep _ a' _ hab => exact .keep x a' after (ih hab)
    | put _ _ _ hx hab => exact .put x a after hx (ih hab)
  | put x before after hx hbc ih => exact .put x a after hx (ih hab)

/-- Parts that follow one another are extended one by one. -/
theorem append (hab : Extends a b) (hcd : Extends c d) : Extends (a ++ c) (b ++ d) := by
  induction hab with
  | nil => exact hcd
  | keep x before after _ ih => exact .keep x _ _ ih
  | put x before after hx _ ih => exact .put x _ _ hx ih

/-- Dashes alone may be put in anywhere. -/
theorem dashes (k : Nat) : Extends [] (List.replicate k '-') := by
  induction k with
  | zero => exact .nil
  | succ k ih => exact .put '-' [] _ (.inl rfl) ih

/-- What is written was written before, or is a dash or a closing bracket. -/
theorem mem (h : Extends a b) {x : Char} (hx : x ∈ b) : x ∈ a ∨ x = '-' ∨ x = ']' := by
  induction h with
  | nil => exact .inl hx
  | keep y before after _ ih =>
    rcases List.mem_cons.1 hx with rfl | hx
    · exact .inl List.mem_cons_self
    · exact (ih hx).imp_left (List.mem_cons_of_mem _)
  | put y before after hy _ ih =>
    rcases List.mem_cons.1 hx with rfl | hx
    · exact .inr hy
    · exact ih hx

end Extends

/-- The ink of parts that follow one another. -/
theorem ink_append (a b : Line) : ink (a ++ b) = ink a ++ ink b := List.filter_append a b

/-- Spaces are no ink. -/
theorem ink_eq_nil {line : Line} (h : ∀ c ∈ line, c = ' ') : ink line = [] :=
  List.filter_eq_nil_iff.2 fun c hc => by simp [h c hc]

/-- Spaces are no ink. -/
@[simp] theorem ink_replicate_space (k : Nat) : ink (List.replicate k ' ') = [] :=
  ink_eq_nil fun _ hc => List.eq_of_mem_replicate hc

/-- Dashes are ink. -/
@[simp] theorem ink_replicate_dash (k : Nat) :
    ink (List.replicate k '-') = List.replicate k '-' :=
  List.filter_eq_self.2 fun c hc => by
    rw [List.eq_of_mem_replicate hc]
    rfl

/-- A line keeps its ink when it is filled up with spaces. -/
@[simp] theorem ink_padRight (width : Nat) (line : Line) :
    ink (padRight width line) = ink line := by
  rw [padRight, ink_append, ink_replicate_space, List.append_nil]

/-- Lines without line feeds have none after dashes and closing brackets were put in. -/
theorem KeepsInk.newline_not_mem {before after : Line} (h : KeepsInk before after)
    (hbefore : '\n' ∉ before) : '\n' ∉ after := by
  intro hmem
  have hink : '\n' ∈ ink after := List.mem_filter.2 ⟨hmem, rfl⟩
  rcases h.mem hink with hold | hput | hput
  · exact hbefore (List.mem_filter.1 hold).1
  · exact absurd hput (by decide)
  · exact absurd hput (by decide)

/-- All lines keep their ink when nothing happens. -/
theorem forall₂_keepsInk_refl (lines : List Line) : List.Forall₂ KeepsInk lines lines :=
  List.forall₂_same.2 fun line _ => .refl (ink line)

/-- All lines that keep their ink twice keep it. -/
theorem forall₂_keepsInk_trans {first second third : List Line}
    (h : List.Forall₂ KeepsInk first second) (h' : List.Forall₂ KeepsInk second third) :
    List.Forall₂ KeepsInk first third :=
  Repair.Strategy.forall₂_trans (fun _ _ _ => Extends.trans) h h'

end Text

namespace Repair.Strategy

open Text (KeepsInk Extends ink)

/-! ## Lines -/

/-- Expanding tabs keeps the ink of a line. -/
theorem keepsInk_expandTabs (width : Int) (line : Line) :
    KeepsInk line (expandTabs width line) := by
  have hsame : ink (expandTabs width line) = ink line := by
    induction line with
    | nil => rfl
    | cons c line ih =>
      have hcons : expandTabs width (c :: line) =
          (if c = '\t' then spaces width else [c]) ++ expandTabs width line := List.flatMap_cons
      rw [hcons, Text.ink_append, ih]
      by_cases htab : c = '\t'
      · rw [if_pos htab, spaces, Text.ink_replicate_space, htab]
        rfl
      · rw [if_neg htab, ← Text.ink_append]
        rfl
  rw [KeepsInk, hsame]
  exact .refl _

/-- Moving a piece of an edge keeps the ink of its line. -/
theorem keepsInk_movePipe {line moved : Line} {expected actual : Nat}
    (h : movePipe line expected actual = some moved) : KeepsInk line moved := by
  have hsame : ink moved = ink line := by
    obtain ⟨-, ⟨-, rfl⟩ | ⟨hlt, rfl, hspaces⟩⟩ := movePipe_eq_some h
    · calc ink (line.take actual ++ List.replicate (expected - actual) ' ' ++ line.drop actual)
          = ink (line.take actual) ++ ink (line.drop actual) := by
            rw [Text.ink_append, Text.ink_append, Text.ink_replicate_space, List.append_nil]
        _ = ink line := by rw [← Text.ink_append, List.take_append_drop]
    · have hbefore : (line.take actual).take expected = line.take expected := by
        rw [List.take_take, Nat.min_eq_left hlt.le]
      calc ink (line.take expected ++ line.drop actual)
          = ink ((line.take actual).take expected) ++ ink ((line.take actual).drop expected) ++
              ink (line.drop actual) := by
            rw [Text.ink_append, hbefore, Text.ink_eq_nil hspaces, List.append_nil]
        _ = ink line := by
            rw [← Text.ink_append, ← Text.ink_append, List.take_append_drop,
              List.take_append_drop]
  rw [KeepsInk, hsame]
  exact .refl _

/-- Closing a bracket keeps the ink of its line. -/
theorem keepsInk_closeBracket {line closed content : Line} {col : Nat} (hcontent : content ≠ [])
    (h : closeBracket line col content = some closed) : KeepsInk line closed := by
  obtain ⟨-, gap, rest, hdrop, hgap, rfl⟩ := closeBracket_eq_some hcontent h
  have hline : ink line = ink (line.take (col + content.length)) ++ [] ++ ink rest := by
    calc ink line
        = ink (line.take (col + content.length)) ++ ink (line.drop (col + content.length)) := by
          rw [← Text.ink_append, List.take_append_drop]
      _ = ink (line.take (col + content.length)) ++ [] ++ ink rest := by
          rw [hdrop, Text.ink_append, Text.ink_eq_nil hgap, List.append_nil, List.nil_append]
  have hput : Extends [] (ink [' ', ']']) := .put ']' [] [] (.inr rfl) .nil
  rw [KeepsInk, hline, Text.ink_append, Text.ink_append]
  exact ((Extends.refl _).append hput).append (.refl _)

/-- Moving a corner keeps the ink of its line. -/
theorem keepsInk_extendEdge {line extended : Line} {old new : Nat}
    (h : extendEdge line old new = some extended) : KeepsInk line extended := by
  have hcorner : ∀ l, ink ('+' :: l) = '+' :: ink l := fun l => List.filter_cons_of_pos rfl
  obtain ⟨before, after, k, ⟨-, -, hpadded, rfl⟩ | ⟨-, -, hpadded, rfl⟩⟩ := extendEdge_eq_some h
  · have hmid : Extends (ink ('+' :: List.replicate k ' '))
        (ink (List.replicate k '-' ++ ['+'])) := by
      rw [hcorner, Text.ink_replicate_space, Text.ink_append, Text.ink_replicate_dash]
      exact (Extends.dashes k).append (.refl ['+'])
    rw [KeepsInk, ← Text.ink_padRight (max old new + 1) line, hpadded]
    simp only [Text.ink_append before, Text.ink_append _ after]
    exact ((Extends.refl _).append hmid).append (.refl _)
  · have hmid : Extends (ink (List.replicate k ' ' ++ ['+']))
        (ink ('+' :: List.replicate k '-')) := by
      rw [Text.ink_append, Text.ink_replicate_space, List.nil_append, hcorner, hcorner,
        Text.ink_replicate_dash]
      exact (Extends.refl ['+']).append (.dashes k)
    rw [KeepsInk, ← Text.ink_padRight (max old new + 1) line, hpadded]
    simp only [Text.ink_append before, Text.ink_append _ after]
    exact ((Extends.refl _).append hmid).append (.refl _)

/-- Every edit keeps the ink of its line. -/
theorem keptByEdits_keepsInk (strategies : List Strategy) : KeptByEdits strategies KeepsInk where
  refl line := .refl (ink line)
  trans _ _ _ := Extends.trans
  tab width line _ := keepsInk_expandTabs width line
  pipe _ _ _ _ := keepsInk_movePipe
  bracket _ _ _ _ _ hcontent _ _ := keepsInk_closeBracket hcontent
  corner _ _ _ _ := keepsInk_extendEdge

/-- Repairing a problem keeps the ink of all lines. -/
theorem forall₂_repaired {strategies : List Strategy} {lines repaired : List Line} {d : Diagnostic}
    (h : Repaired strategies lines d repaired) : List.Forall₂ KeepsInk lines repaired :=
  (keptByEdits_keepsInk strategies).forall₂ h

end Repair.Strategy

/-! ## Whole texts -/

namespace Repair.Settings

open Text (KeepsInk)

variable {s : Settings}

/-- Lines that keep their ink are still lines of a text. -/
theorem lines_block {before after : List Line} (h : List.Forall₂ KeepsInk before after)
    (hne : before ≠ []) (hbefore : ∀ l ∈ before, '\n' ∉ l) :
    Text.lines (Text.block after).toList = after := by
  have hafter : after ≠ [] := by
    rintro rfl
    cases h
    exact hne rfl
  refine Text.lines_block hafter fun l hl => ?_
  obtain ⟨i, hi, rfl⟩ := List.getElem_of_mem hl
  have hlength := h.length_eq
  have hkeeps : KeepsInk before[i] after[i] := (List.forall₂_iff_get.1 h).2 i (by omega) hi
  exact hkeeps.newline_not_mem (hbefore _ (List.getElem_mem _))

/-- A step repairs the lines of its text, and what comes out are the lines of the text behind it. -/
theorem repaired_of_step {text edited : String} {change : Change}
    (h : s.step text = some (edited, change)) :
    Strategy.Repaired s.strategies (Text.lines text.toList) change.problem
      (Text.lines edited.toList) := by
  obtain ⟨strategy, e, hedits⟩ := edits_of_step h
  have hrepaired := Strategy.repaired_of_edit hedits.mem (Config.applies_of_mem_diagnostics hedits.found)
    hedits.kind hedits.edit
  have hlines := lines_block (Strategy.forall₂_repaired hrepaired) (Text.lines_ne_nil _)
    fun l hl => Text.newline_not_mem_of_mem_lines hl
  rw [hedits.edited, hlines]
  exact hrepaired

/-- What edits of a line keep holds between all lines of a text and of one that steps lead to. -/
theorem Steps.forall₂ {R : Line → Line → Prop} (hR : Strategy.KeptByEdits s.strategies R)
    {text last : String} {changes : List Change} (h : s.Steps text changes last) :
    List.Forall₂ R (Text.lines text.toList) (Text.lines last.toList) :=
  h.rel (R := fun a b => List.Forall₂ R (Text.lines a.toList) (Text.lines b.toList))
    (fun _ => List.forall₂_same.2 fun line _ => hR.refl line)
    (fun _ _ _ => Strategy.forall₂_trans hR.trans)
    (fun _ _ _ hstep => hR.forall₂ (repaired_of_step hstep))

/-- A repair that ends leaves as many lines as the text has with its line ends unified. On each
line everything that is neither space nor tab stays in its order, and only dashes and closing
brackets are put in between. -/
theorem repair_keepsInk (s : Settings) (text : String) (o : Outcome) (h : s.repair text = .ok o) :
    (Text.lines o.text.toList).length =
        (Text.lines (Text.unifyNewlines text.toList)).length ∧
      List.Forall₂ KeepsInk (Text.lines (Text.unifyNewlines text.toList))
        (Text.lines o.text.toList) := by
  obtain ⟨hbefore, -, -, hsteps⟩ := steps_of_repair h
  have hrel : List.Forall₂ KeepsInk (Text.lines o.before.toList) (Text.lines o.text.toList) :=
    hsteps.rel (R := fun a b => List.Forall₂ KeepsInk (Text.lines a.toList) (Text.lines b.toList))
      (fun a => Text.forall₂_keepsInk_refl _)
      (fun a b c => Text.forall₂_keepsInk_trans)
      (fun a b change hstep => Strategy.forall₂_repaired (repaired_of_step hstep))
  rw [hbefore, String.toList_ofList] at hrel
  exact ⟨hrel.length_eq.symm, hrel⟩

/-- A tab, an open bracket, a misplaced piece of an edge and a bottom edge that is too short. -/
def fourProblems : String := "+------+\n|\tx   |\n| [b   |\n  |    |\n+---+"

/-- All four are repaired, and what was written stays. -/
theorem repair_keepsInk_four_problems :
    ∃ o, default.repair fourProblems = .ok o ∧
      o.text = "+------+\n|  x   |\n| [b ] |\n|      |\n+------+" ∧
      (Text.lines o.text.toList).length =
        (Text.lines (Text.unifyNewlines fourProblems.toList)).length ∧
      List.Forall₂ KeepsInk (Text.lines (Text.unifyNewlines fourProblems.toList))
        (Text.lines o.text.toList) := by
  have htext : (default.repair fourProblems).toOption.map (·.text) =
      some "+------+\n|  x   |\n| [b ] |\n|      |\n+------+" := by
    decide +kernel
  cases hrepair : default.repair fourProblems with
  | error e =>
    rw [hrepair] at htext
    simp [Except.toOption] at htext
  | ok o =>
    rw [hrepair] at htext
    exact ⟨o, rfl, Option.some.inj htext, repair_keepsInk default _ o hrepair⟩

end Repair.Settings

end Wireframe
