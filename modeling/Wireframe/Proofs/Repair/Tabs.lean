import Mathlib.Data.List.Basic
import Wireframe.Proofs.Compose
import Wireframe.Proofs.Repair.Rounds

/-!
# Tabs are repaired first

Every line that holds a tab is a problem of its own, and such problems come before all others. So
the first steps of repair replace the tabs line by line, from the first line with a tab to the last
one (`exists_steps_expand`), and since no edit brings back a tab, no later step has to do with tabs
(`Steps.tab_not_mem`). What is left is the repair of the text with spaces in the place of tabs, with
one round less for each of these lines (`repair_tabs_first`).
-/

namespace Wireframe.Repair

open Strategy (expandTabs tab_not_mem_expandTabs)

variable {width : Int}

/-! ## Lines with tabs -/

namespace Strategy

/-- A line without tabs stays as it is. -/
theorem expandTabs_of_not_mem {line : Line} (h : '\t' ∉ line) :
    expandTabs width line = line := by
  induction line with
  | nil => rfl
  | cons c line ih =>
    rw [List.mem_cons, not_or] at h
    have hc : c ≠ '\t' := Ne.symm h.1
    have hrest := ih h.2
    rw [expandTabs] at hrest ⊢
    rw [List.flatMap_cons, if_neg hc, hrest]
    rfl

/-- What stands on a line behind the change and is no space stood there before. -/
theorem mem_of_mem_expandTabs {line : Line} {c : Char} (h : c ∈ expandTabs width line)
    (hc : c ≠ ' ') : c ∈ line := by
  obtain ⟨d, hd, hmem⟩ := List.mem_flatMap.1 h
  split at hmem
  · exact absurd (List.eq_of_mem_replicate hmem) hc
  · rwa [List.mem_singleton.1 hmem]

/-- What no line holds and is no space, no line holds behind the change. -/
theorem not_mem_of_mem_expanded {front rest : List Line} {line : Line} {c : Char} (hc : c ≠ ' ')
    (h : ∀ l ∈ front ++ line :: rest, c ∉ l) :
    ∀ l ∈ front ++ expandTabs width line :: rest, c ∉ l := by
  intro l hl
  rw [List.mem_append, List.mem_cons] at hl
  rcases hl with hfront | rfl | hrest
  · exact h l (by simp [hfront])
  · exact fun hmem => h line (by simp) (mem_of_mem_expandTabs hmem hc)
  · exact h l (by simp [hrest])

/-- The tabs of a line are replaced when they are found there. -/
theorem fixTab_unusualSpacing (width col : Int) (snippet : String) {lines : List Line} {row : Int}
    {line : Line} (hline : line? lines row = some line) (htab : '\t' ∈ line) :
    fixTab width lines (.unusualSpacing ⟨row, col⟩ snippet) =
      some ⟨setLine lines row (expandTabs width line),
        "Replaced " ++ Text.decimal (line.count '\t') ++ " tab(s) with spaces on line " ++
          Text.decimal (row + 1)⟩ := by
  have hposition : (Diagnostic.unusualSpacing ⟨row, col⟩ snippet).position = ⟨row, col⟩ := rfl
  rw [fixTab, hposition]
  dsimp only
  rw [hline, Option.bind_eq_bind, Option.bind_some, if_pos htab]

/-- Where tabs are repaired, there are some. -/
theorem exists_tab_of_repaired {strategies : List Strategy} {lines repaired : List Line}
    {d : Diagnostic} (h : Repaired strategies lines d repaired) (hkind : d.kind = .unusualSpacing) :
    ∃ line ∈ lines, '\t' ∈ line := by
  cases h with
  | tab row col width snippet line hwidth hline htab =>
    exact ⟨line, List.mem_of_getElem? hline, htab⟩
  | _ => cases hkind

/-- The tabs of a text are those of its lines. -/
theorem unlines_map_expandTabs (width : Int) (ls : List Line) :
    Text.unlines (ls.map (expandTabs width)) = expandTabs width (Text.unlines ls) := by
  induction ls with
  | nil => rfl
  | cons line rest ih =>
    cases rest with
    | nil => rfl
    | cons next rest =>
      have hnewline : ∀ cs, expandTabs width (line ++ '\n' :: cs) =
          expandTabs width line ++ '\n' :: expandTabs width cs := by
        intro cs
        simp [expandTabs]
      rw [List.map_cons, Text.unlines_cons _ (by simp), Text.unlines_cons _ (by simp), ih, hnewline]

end Strategy

/-- The rows of the lines that hold tabs, in increasing order. -/
def tabRows (lines : List Line) : List Nat := lines.findIdxs fun line => '\t' ∈ line

/-- The tab problems are told line by line. -/
theorem map_line_tabsIn (lines : List Line) :
    (Analysis.tabsIn lines).map (·.line) = (tabRows lines).map fun row : Nat => (row : Int) + 1 := by
  rw [Analysis.tabsIn, tabRows, List.findIdxs_eq_filterMap_zipIdx, List.map_filterMap,
    List.map_filterMap]
  refine List.filterMap_congr fun x _ => ?_
  by_cases htab : '\t' ∈ x.1
  · simp [Analysis.tabProblem?, htab, Diagnostic.line, Diagnostic.unusualSpacing,
      Diagnostic.ofDetails]
  · simp [Analysis.tabProblem?, htab]

/-- Behind lines without tabs, a line with a tab is the first tab problem, and the others are those
that are left when its tabs are replaced. -/
theorem tabsIn_append_cons (width : Int) {front rest : List Line} {line : Line}
    (hfront : ∀ l ∈ front, '\t' ∉ l) (htab : '\t' ∈ line) :
    Analysis.tabsIn (front ++ line :: rest) =
      .unusualSpacing ⟨front.length, line.idxOf '\t'⟩ (String.ofList line) ::
        Analysis.tabsIn (front ++ expandTabs width line :: rest) := by
  have hsplit : ∀ l, Analysis.tabsIn (front ++ l :: rest) =
      (Analysis.tabProblem? front.length l).toList ++
        (rest.zipIdx (front.length + 1)).filterMap fun numbered =>
          Analysis.tabProblem? numbered.2 numbered.1 := by
    intro l
    have hnone := Analysis.tabsIn_eq_nil hfront
    rw [Analysis.tabsIn] at hnone
    rw [Analysis.tabsIn, List.zipIdx_append, List.filterMap_append, hnone, List.zipIdx_cons,
      List.filterMap_cons, Nat.zero_add]
    dsimp only
    cases Analysis.tabProblem? front.length l <;> rfl
  rw [hsplit, hsplit, Analysis.tabProblem?, Analysis.tabProblem?, if_pos htab,
    if_neg (tab_not_mem_expandTabs width line)]
  rfl

namespace Settings

variable {s : Settings} {text last : String} {changes : List Change}

/-- Among the problems of a text, its tabs are the ones with unusual spacing. -/
theorem filter_unusualSpacing (s : Settings) (text : String) :
    (s.problems text).filter (fun d => decide (d.kind = .unusualSpacing)) =
      Analysis.tabsIn (Analysis.linesOf text) := by
  have hwarning : ∀ d : Diagnostic, d.kind = .unusualSpacing → d.isError = false := by
    intro d hd
    rw [Diagnostic.isError, Diagnostic.severity, hd]
    rfl
  have hproblems : (s.problems text).filter (fun d => decide (d.kind = .unusualSpacing)) =
      (Analysis.ofText s.config text none).diagnostics.filter
        fun d => decide (d.kind = .unusualSpacing) := by
    have hsplit : s.problems text =
        (Analysis.ofText s.config text none).diagnostics.filter (·.isError) ++
          (Analysis.ofText s.config text none).diagnostics.filter fun d => !d.isError := rfl
    rw [hsplit, List.filter_append, List.filter_filter, List.filter_filter,
      List.filter_eq_nil_iff.2 fun d _ => by simpa using hwarning d, List.nil_append]
    refine List.filter_congr fun d _ => ?_
    by_cases hkind : d.kind = .unusualSpacing
    · simp [hkind, hwarning d hkind]
    · simp [hkind]
  have hfound : (Analysis.ofText s.config text none).diagnostics =
      Analysis.tabsIn (Analysis.linesOf text) ++
        (Analysis.blockProblems s.config (Analysis.blocksOf text) ++
          (Analysis.ofText s.config text none).idProblems) := by
    rw [Analysis.diagnostics, ← List.append_assoc]
    exact List.append_nil _
  rw [hproblems, hfound, List.filter_append,
    List.filter_eq_self.2 fun d hd => decide_eq_true (Analysis.kind_of_mem_tabsIn hd)]
  -- The other problems are of other kinds.
  refine List.append_right_eq_self.2 (List.filter_eq_nil_iff.2 fun d hd hkind => ?_)
  rcases List.mem_append.1 hd with hblock | hid
  · exact Analysis.kind_of_mem_blockProblems hblock (of_decide_eq_true hkind)
  · have hduplicate := Analysis.kind_of_mem_repeatedIds hid
    rw [of_decide_eq_true hkind] at hduplicate
    simp at hduplicate

/-- The problems that are tried first are the tabs. -/
theorem inOrder_problems (s : Settings) (text : String) :
    ∃ others, inOrder (s.problems text) = Analysis.tabsIn (Analysis.linesOf text) ++ others := by
  refine ⟨(s.problems text).filter fun d => decide (d.kind ≠ .unusualSpacing), ?_⟩
  rw [inOrder, filter_unusualSpacing]

/-! ## The first steps -/

/-- Lines without line feeds and carriage returns are read as they are. -/
theorem linesOf_block {lines : List Line} (hne : lines ≠ []) (hnewline : ∀ l ∈ lines, '\n' ∉ l)
    (hreturn : ∀ l ∈ lines, '\r' ∉ l) : Analysis.linesOf (Text.block lines) = lines := by
  have hnone : '\r' ∉ (Text.block lines).toList := by
    rw [Text.block, String.toList_ofList, Text.mem_unlines_iff (by decide)]
    rintro ⟨l, hl, hc⟩
    exact hreturn l hl hc
  rw [Analysis.linesOf_eq hnone, Text.lines_block hne hnewline]

/-- The tabs of a line can be replaced, and that changes the text. -/
theorem tryStrategy_tab (width : Int) {front rest : List Line} {line : Line}
    (hlines : Text.lines text.toList = front ++ line :: rest) (htab : '\t' ∈ line) (col : Int)
    (snippet : String) :
    ∃ description, tryStrategy text (.unusualSpacing ⟨front.length, col⟩ snippet) (.tab width) =
      some (Text.block (front ++ expandTabs width line :: rest),
        ⟨.unusualSpacing ⟨front.length, col⟩ snippet, description⟩) := by
  have hline : Strategy.line? (front ++ line :: rest) (front.length : Int) = some line :=
    Strategy.line?_eq_some_iff.2 ⟨front.length, rfl, by simp⟩
  have hset : Strategy.setLine (front ++ line :: rest) (front.length : Int)
      (expandTabs width line) = front ++ expandTabs width line :: rest := by
    rw [Strategy.setLine, Int.toNat_natCast, List.set_append_right _ _ (Nat.le_refl _),
      Nat.sub_self]
    rfl
  have hnewline : ∀ l ∈ front ++ line :: rest, '\n' ∉ l := by
    rw [← hlines]
    exact fun l hl => Text.newline_not_mem_of_mem_lines hl
  -- The line behind the change has no tab, so it is another one.
  have hne : Text.block (front ++ expandTabs width line :: rest) ≠ text := by
    intro hsame
    rw [← hsame, Text.lines_block (by simp)
      (Strategy.not_mem_of_mem_expanded (by decide) hnewline), List.append_cancel_left_eq,
      List.cons.injEq] at hlines
    rw [← hlines.1] at htab
    exact tab_not_mem_expandTabs width line htab
  have hfix := Strategy.fixTab_unusualSpacing width col snippet hline htab
  rw [hset, ← hlines] at hfix
  exact ⟨_, tryStrategy_eq_some_iff.2 ⟨rfl, hne, _, congrArg Except.ok hfix, rfl, rfl⟩⟩

/-- If a line with a tab stands behind lines without any, its tabs are replaced next. -/
theorem step_of_tab (hs : s.strategies = defaultStrategies width) {front rest : List Line}
    {line : Line} (hnewline : ∀ l ∈ front ++ line :: rest, '\n' ∉ l)
    (hreturn : ∀ l ∈ front ++ line :: rest, '\r' ∉ l) (hfront : ∀ l ∈ front, '\t' ∉ l)
    (htab : '\t' ∈ line) :
    ∃ description, s.step (Text.block (front ++ line :: rest)) =
      some (Text.block (front ++ expandTabs width line :: rest),
        ⟨.unusualSpacing ⟨front.length, line.idxOf '\t'⟩ (String.ofList line), description⟩) := by
  have hne : front ++ line :: rest ≠ [] := by simp
  obtain ⟨others, hothers⟩ := inOrder_problems s (Text.block (front ++ line :: rest))
  rw [linesOf_block hne hnewline hreturn, tabsIn_append_cons width hfront htab] at hothers
  obtain ⟨description, htry⟩ := tryStrategy_tab width (Text.lines_block hne hnewline) htab
    (line.idxOf '\t') (String.ofList line)
  refine ⟨description, ?_⟩
  rw [step, firstRepair, hothers, List.cons_append, hs, defaultStrategies, List.findSome?_cons,
    List.findSome?_cons, htry]

/-- The tabs are replaced line by line, here behind the lines where that was done. -/
theorem exists_steps_expand (hs : s.strategies = defaultStrategies width) {front rest : List Line}
    (hnewline : ∀ l ∈ front ++ rest, '\n' ∉ l) (hreturn : ∀ l ∈ front ++ rest, '\r' ∉ l)
    (hfront : ∀ l ∈ front, '\t' ∉ l) :
    ∃ changes, s.Steps (Text.block (front ++ rest)) changes
        (Text.block (front ++ rest.map (expandTabs width))) ∧
      changes.map (·.problem) = Analysis.tabsIn (front ++ rest) := by
  induction rest generalizing front with
  | nil =>
    rw [List.map_nil, List.append_nil, Analysis.tabsIn_eq_nil hfront]
    exact ⟨[], .none _, rfl⟩
  | cons line rest ih =>
    -- The line belongs to those in front once its tabs are replaced.
    have hmove : front ++ expandTabs width line :: rest =
        (front ++ [expandTabs width line]) ++ rest := by simp
    have hexpanded : ∀ l ∈ front ++ [expandTabs width line], '\t' ∉ l := by
      intro l hl
      rcases List.mem_append.1 hl with hl | hl
      · exact hfront l hl
      · rw [List.mem_singleton.1 hl]
        exact tab_not_mem_expandTabs width line
    obtain ⟨changes, hsteps, hproblems⟩ := ih
      (by rw [← hmove]; exact Strategy.not_mem_of_mem_expanded (by decide) hnewline)
      (by rw [← hmove]; exact Strategy.not_mem_of_mem_expanded (by decide) hreturn) hexpanded
    rw [← hmove] at hsteps hproblems
    rw [List.append_assoc, List.singleton_append] at hsteps
    rw [List.map_cons]
    by_cases htab : '\t' ∈ line
    · obtain ⟨description, hstep⟩ := step_of_tab hs hnewline hreturn hfront htab
      refine ⟨_, .cons _ _ _ _ _ hstep hsteps, ?_⟩
      rw [List.map_cons, hproblems, tabsIn_append_cons width hfront htab]
    · rw [Strategy.expandTabs_of_not_mem htab] at hsteps hproblems ⊢
      exact ⟨changes, hsteps, hproblems⟩

/-- Where no tab stands, no step has to do with tabs or brings one in. -/
theorem Steps.tab_not_mem (h : s.Steps text changes last) (htab : '\t' ∉ text.toList) :
    (∀ c ∈ changes, c.problem.kind ≠ .unusualSpacing) ∧ '\t' ∉ last.toList := by
  induction h with
  | none text => exact ⟨by simp, htab⟩
  | cons text edited last change changes hstep _ ih =>
    have hedited : '\t' ∉ edited.toList := by
      have hkept := (Strategy.keptByEdits_tab_mem s.strategies).forall₂ (repaired_of_step hstep)
      intro hmem
      obtain ⟨line, hline, hc⟩ := (Text.mem_iff_exists_mem_lines (by decide)).1 hmem
      obtain ⟨old, hold, hback⟩ := Strategy.exists_mem_of_forall₂ hkept hline
      exact htab ((Text.mem_iff_exists_mem_lines (by decide)).2 ⟨old, hold, hback hc⟩)
    obtain ⟨hchanges, hlast⟩ := ih hedited
    refine ⟨List.forall_mem_cons.2 ⟨fun hkind => ?_, hchanges⟩, hlast⟩
    obtain ⟨line, hline, hmem⟩ := Strategy.exists_tab_of_repaired (repaired_of_step hstep) hkind
    exact htab ((Text.mem_iff_exists_mem_lines (by decide)).2 ⟨line, hline, hmem⟩)

/-! ## Whole texts -/

/-- A text with spaces in the place of tabs. -/
def expanded (width : Int) (text : String) : String := String.ofList (expandTabs width text.toList)

/-- Replacing tabs brings in no carriage return. -/
theorem return_not_mem_expanded (h : '\r' ∉ text.toList) :
    '\r' ∉ (expanded width text).toList := by
  rw [expanded, String.toList_ofList]
  exact fun hmem => h (Strategy.mem_of_mem_expandTabs hmem (by decide))

/-- Behind the change there are no tabs. -/
theorem tab_not_mem_expanded : '\t' ∉ (expanded width text).toList := by
  rw [expanded, String.toList_ofList]
  exact tab_not_mem_expandTabs width _

/-- The steps that replace the tabs of a text, one for each line with a tab. -/
theorem exists_steps_expanded (hs : s.strategies = defaultStrategies width)
    (hreturn : '\r' ∉ text.toList) :
    ∃ changes, s.Steps text changes (expanded width text) ∧
      changes.map (·.problem) = Analysis.tabsIn (Text.lines text.toList) := by
  have hnewline : ∀ l ∈ [] ++ Text.lines text.toList, '\n' ∉ l := fun _ =>
    Text.newline_not_mem_of_mem_lines
  have hnone : ∀ l ∈ [] ++ Text.lines text.toList, '\r' ∉ l := fun l hl hc =>
    hreturn ((Text.mem_iff_exists_mem_lines (by decide)).2 ⟨l, hl, hc⟩)
  obtain ⟨changes, hsteps, hproblems⟩ :=
    exists_steps_expand (s := s) hs hnewline hnone fun _ hl => absurd hl List.not_mem_nil
  rw [List.nil_append, List.nil_append, Text.block_lines, Text.block,
    Strategy.unlines_map_expandTabs, Text.unlines_lines] at hsteps
  exact ⟨changes, hsteps, hproblems⟩

/-- The usual strategies with other settings. -/
def usual (config : Config) (width : Int) (rounds : Nat) : Settings :=
  ⟨config, defaultStrategies width, rounds⟩

/-- Let a text without carriage returns have a tab on `k` of its lines, and let it be repaired by the
usual strategies. With `k` rounds or fewer, repair is given up. With more rounds, the first `k`
changes replace the tabs, from the first line with a tab to the last one, and then everything is as
in the repair of the text with spaces in the place of tabs and `k` rounds less: it is given up if
that is, with the same problems, or else gives the same text with the same problems left and adds
the same changes, none of which has to do with tabs. The text that it gives has no tabs. -/
theorem repair_tabs_first (config : Config) (width : Int) (rounds : Nat) (text : String)
    (hreturn : '\r' ∉ text.toList) :
    (rounds ≤ (tabRows (Text.lines text.toList)).length →
      ∃ e, (usual config width rounds).repair text = .error e) ∧
    ((tabRows (Text.lines text.toList)).length < rounds →
      ∃ made : List Change, (∀ c ∈ made, c.problem.kind = .unusualSpacing) ∧
        made.map (·.line) =
          (tabRows (Text.lines text.toList)).map (fun row : Nat => (row : Int) + 1) ∧
        (∀ e, (usual config width (rounds - (tabRows (Text.lines text.toList)).length)).repair
            (expanded width text) = .error e →
          (usual config width rounds).repair text = .error ⟨rounds, e.diagnostics⟩) ∧
        ∀ o, (usual config width (rounds - (tabRows (Text.lines text.toList)).length)).repair
            (expanded width text) = .ok o →
          (usual config width rounds).repair text =
            .ok ⟨text, o.text, made ++ o.changes, o.remaining⟩ ∧
          (∀ c ∈ o.changes, c.problem.kind ≠ .unusualSpacing) ∧ '\t' ∉ o.text.toList) := by
  obtain ⟨made, hsteps, hproblems⟩ :=
    exists_steps_expanded (s := usual config width rounds) rfl hreturn
  have hlines : made.map (·.line) =
      (tabRows (Text.lines text.toList)).map fun row : Nat => (row : Int) + 1 := by
    rw [← map_line_tabsIn, ← hproblems, List.map_map]
    rfl
  have hlength : made.length = (tabRows (Text.lines text.toList)).length := by
    simpa using congrArg List.length hlines
  rw [← hlength]
  refine ⟨fun hfew => ?_, fun hmany => ⟨made, fun c hc => ?_, hlines, ?_⟩⟩
  · cases rounds with
    | zero => exact ⟨⟨0, []⟩, rfl⟩
    | succ n =>
      have hafter : (usual config width (n + 1)).after made.length (start text) =
          some (expanded width text) := by
        rw [start_eq hreturn]
        exact after_eq_some_iff.2 ⟨made, rfl, hsteps⟩
      have hmore : ∀ steps ≤ n, ∀ last,
          ¬ (usual config width (n + 1)).StopsAfter steps (start text) last := fun steps hle =>
        not_stopsAfter_of_after hafter (by omega)
      obtain ⟨last, -, herror⟩ := exists_repair_of_not_stopsAfter hmore
      exact ⟨_, herror⟩
  · have hmem : c.problem ∈ Analysis.tabsIn (Text.lines text.toList) := by
      rw [← hproblems]
      exact List.mem_map_of_mem hc
    exact Analysis.kind_of_mem_tabsIn hmem
  · obtain ⟨left, rfl⟩ := Nat.exists_eq_add_of_lt hmany
    have hrest : (usual config width (made.length + left + 1)).repair text = _ :=
      repair_of_steps hreturn (return_not_mem_expanded hreturn) hsteps left
    have hleft : made.length + left + 1 - made.length = left + 1 := by omega
    have hsame : (usual config width (made.length + left + 1)).withRounds (left + 1) =
        usual config width (left + 1) := rfl
    rw [hsame] at hrest
    rw [hleft, hrest]
    refine ⟨fun e herror => ?_, fun o hok => ?_⟩
    · rw [herror]
    · obtain ⟨hbefore, -, -, hlater⟩ := steps_of_repair hok
      have hstart : o.before = expanded width text := by
        rw [hbefore]
        exact start_eq (return_not_mem_expanded hreturn)
      rw [hstart] at hlater
      exact ⟨by rw [hok], hlater.tab_not_mem tab_not_mem_expanded⟩

/-- A box with tabs on two of its lines and a bracket that is not closed. -/
def tabbedBox : String := "+------+\n|\tx   |\n| [b\t |\n+------+"

/-- Two rounds replace the tabs and are not enough; a third one closes the bracket, and with a fourth
one repair ends. -/
theorem repair_tabs_first_tabbedBox :
    (∃ e, (usual .default 2 2).repair tabbedBox = .error e) ∧
      ∃ made later, made.map (·.line) = [2, 3] ∧ later.map (·.line) = [3] ∧
        (usual .default 2 4).repair tabbedBox =
          .ok ⟨tabbedBox, "+------+\n|  x   |\n| [b ] |\n+------+", made ++ later, []⟩ := by
  have hrows : tabRows (Text.lines tabbedBox.toList) = [1, 2] := by decide +kernel
  have hreturn : '\r' ∉ tabbedBox.toList := by decide +kernel
  obtain ⟨o, hrepair, htext, hremaining, hlater⟩ :
      ∃ o, (usual .default 2 2).repair (expanded 2 tabbedBox) = .ok o ∧
        o.text = "+------+\n|  x   |\n| [b ] |\n+------+" ∧ o.remaining = [] ∧
          o.changes.map (·.line) = [3] := by
    have hgiven : ((usual .default 2 2).repair (expanded 2 tabbedBox)).toOption.map
        (fun o => (o.text, o.remaining, o.changes.map (·.line))) =
          some ("+------+\n|  x   |\n| [b ] |\n+------+", [], [3]) := by
      decide +kernel
    cases hrepair : (usual .default 2 2).repair (expanded 2 tabbedBox) with
    | error e =>
      rw [hrepair] at hgiven
      simp [Except.toOption] at hgiven
    | ok o =>
      rw [hrepair] at hgiven
      simpa [Except.toOption] using hgiven
  obtain ⟨hfew, -⟩ := repair_tabs_first .default 2 2 tabbedBox hreturn
  obtain ⟨-, hmany⟩ := repair_tabs_first .default 2 4 tabbedBox hreturn
  rw [hrows] at hfew hmany
  obtain ⟨made, -, hlines, -, hsame⟩ := hmany (by decide)
  refine ⟨hfew (by decide), made, o.changes, hlines, hlater, ?_⟩
  rw [(hsame o hrepair).1, htext, hremaining]

end Settings

end Wireframe.Repair
