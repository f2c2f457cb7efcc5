import Wireframe.Repair

/-!
# Steps of repair

Repair goes from text to text in steps. Each step edits the lines of its text by a strategy that is
made for a problem found in that text (`edits_of_step`), and a repair that ends has taken the steps
that it lists and can take no other (`steps_of_repair`). One that is given up has taken a step for
each text that it may read (`steps_of_repair_error`). What every step keeps, a whole repair keeps
(`Steps.rel`).
-/

namespace Wireframe.Repair.Settings

/-- The strategy edits the lines of the text, for a problem of its kind that was found there, into
those of the text behind the step. -/
structure Edits (s : Settings) (text edited : String) (change : Change) (strategy : Strategy)
    (e : Edit) : Prop where
  /-- The strategy is one of those that are tried. -/
  mem : strategy ∈ s.strategies
  /-- The problem was found in the text. -/
  found : change.problem ∈ s.problems text
  /-- The strategy is made for it. -/
  kind : strategy.kind = change.problem.kind
  /-- The edit of the lines. -/
  edit : strategy.edit (Text.lines text.toList) change.problem = .ok (some e)
  /-- The text behind the step. -/
  edited : edited = Text.block e.lines

/-- Texts that follow one another in steps, with the changes on the way. -/
inductive Steps (s : Settings) : String → List Change → String → Prop where
  /-- No step. -/
  | none (text : String) : Steps s text [] text
  /-- A step and those behind it. -/
  | cons (text edited last : String) (change : Change) (changes : List Change)
    (hstep : s.step text = some (edited, change)) (hrest : Steps s edited changes last) :
    Steps s text (change :: changes) last

variable {s : Settings} {text edited last : String} {change : Change} {changes : List Change}
  {o : Outcome}

/-- Putting problems in the order of repair keeps them. -/
theorem mem_inOrder {ds : List Diagnostic} {d : Diagnostic} : d ∈ inOrder ds ↔ d ∈ ds := by
  unfold inOrder
  rw [List.mem_append, List.mem_filter, List.mem_filter]
  by_cases h : d.kind = .unusualSpacing <;> simp [h]

/-- A strategy repairs a problem by an edit that it makes for problems of this kind and that changes
the text. -/
theorem tryStrategy_eq_some_iff {d : Diagnostic} {strategy : Strategy} :
    tryStrategy text d strategy = some (edited, change) ↔
      strategy.kind = d.kind ∧ edited ≠ text ∧
        ∃ e, strategy.edit (Text.lines text.toList) d = .ok (some e) ∧
          edited = Text.block e.lines ∧ change = ⟨d, e.description⟩ := by
  have happly : strategy.apply text d = (strategy.edit (Text.lines text.toList) d).map
      fun made => made.map fun e => (Text.block e.lines, ⟨d, e.description⟩) := by
    rw [Strategy.apply]
    cases strategy.edit (Text.lines text.toList) d <;> rfl
  rw [tryStrategy, happly]
  by_cases hkind : strategy.kind = d.kind
  · rw [if_pos (show strategy.repairs d.kind = true from decide_eq_true hkind)]
    rcases strategy.edit (Text.lines text.toList) d with missing | _ | e
    · simp [Except.map]
    · simp [Except.map]
    · by_cases hsame : Text.block e.lines = text
      · refine iff_of_false (by simp [Except.map, hsame]) ?_
        rintro ⟨-, hne, e', he, hedited, -⟩
        rw [← Option.some.inj (Except.ok.inj he)] at hedited
        exact hne (hedited.trans hsame)
      · simp only [Except.map, Option.map_some, if_neg hsame]
        constructor
        · intro h
          obtain ⟨rfl, rfl⟩ := Prod.mk.inj (Option.some.inj h)
          exact ⟨hkind, hsame, e, rfl, rfl, rfl⟩
        · rintro ⟨-, -, e', he, rfl, rfl⟩
          rw [Option.some.inj (Except.ok.inj he)]
  · have hrepairs : strategy.repairs d.kind ≠ true := by simpa [Strategy.repairs] using hkind
    rw [if_neg hrepairs]
    simp [hkind]

/-- A step is an edit by a strategy for a problem of the text. -/
theorem edits_of_step (h : s.step text = some (edited, change)) :
    ∃ strategy e, s.Edits text edited change strategy e := by
  unfold step firstRepair at h
  obtain ⟨d, hd, htry⟩ := List.exists_of_findSome?_eq_some h
  obtain ⟨strategy, hmem, hedit⟩ := List.exists_of_findSome?_eq_some htry
  obtain ⟨hkind, -, e, he, hedited, rfl⟩ := tryStrategy_eq_some_iff.1 hedit
  exact ⟨strategy, e, hmem, mem_inOrder.1 hd, hkind, he, hedited⟩

/-- A step changes the text. -/
theorem ne_of_step (h : s.step text = some (edited, change)) : edited ≠ text := by
  unfold step firstRepair at h
  obtain ⟨d, -, htry⟩ := List.exists_of_findSome?_eq_some h
  obtain ⟨strategy, -, hedit⟩ := List.exists_of_findSome?_eq_some htry
  exact (tryStrategy_eq_some_iff.1 hedit).2.1

/-- A run that ends has added its changes to those before it, in steps from its text to the last
one, from which no step can be made. -/
theorem steps_of_run {before : String} {earlier : List Change} {ds : List Diagnostic} {rounds : Nat}
    (h : s.run before earlier ds rounds text = .ok o) :
    o.before = before ∧ o.remaining = s.problems o.text ∧ s.step o.text = none ∧
      ∃ later, o.changes = earlier ++ later ∧ s.Steps text later o.text := by
  induction rounds generalizing text earlier ds with
  | zero => simp [run] at h
  | succ rounds ih =>
    unfold run at h
    dsimp only at h
    split at h
    · next hnone =>
      rw [Except.ok.injEq] at h
      rw [← h]
      exact ⟨rfl, rfl, hnone, [], (List.append_nil _).symm, .none text⟩
    · next next change hsome =>
      obtain ⟨hbefore, hremaining, hdone, later, hchanges, hsteps⟩ := ih h
      refine ⟨hbefore, hremaining, hdone, change :: later, ?_, .cons _ _ _ _ _ hsome hsteps⟩
      rw [hchanges, List.append_assoc]
      rfl

/-- A repair that ends has gone in steps from the text with its line ends unified to a text from
which no step can be made. -/
theorem steps_of_repair (h : s.repair text = .ok o) :
    o.before = String.ofList (Text.unifyNewlines text.toList) ∧
      o.remaining = s.problems o.text ∧ s.step o.text = none ∧
        s.Steps o.before o.changes o.text := by
  unfold repair at h
  dsimp only at h
  cases hrun : s.run (String.ofList (Text.unifyNewlines text.toList)) [] [] s.maxRounds
      (String.ofList (Text.unifyNewlines text.toList)) with
  | error ds =>
    rw [hrun] at h
    have hgiven : (.error ⟨s.maxRounds, ds⟩ : Except Unsettled Outcome) = .ok o := h
    simp at hgiven
  | ok o' =>
    rw [hrun] at h
    have hgiven : (.ok o' : Except Unsettled Outcome) = .ok o := h
    obtain rfl := Except.ok.inj hgiven
    obtain ⟨hbefore, hremaining, hdone, later, hchanges, hsteps⟩ := steps_of_run hrun
    rw [List.nil_append] at hchanges
    rw [hbefore, hchanges]
    exact ⟨rfl, hremaining, hdone, hsteps⟩

/-- A run that is given up has made a step in each round. -/
theorem steps_of_run_error {before : String} {earlier : List Change} {ds ds' : List Diagnostic}
    {rounds : Nat} (h : s.run before earlier ds rounds text = .error ds') :
    ∃ changes last, changes.length = rounds ∧ s.Steps text changes last := by
  induction rounds generalizing text earlier ds with
  | zero => exact ⟨[], text, rfl, .none text⟩
  | succ rounds ih =>
    unfold run at h
    dsimp only at h
    split at h
    · simp at h
    · next next change hsome =>
      obtain ⟨changes, last, hlength, hsteps⟩ := ih h
      exact ⟨change :: changes, last, congrArg (· + 1) hlength, .cons _ _ _ _ _ hsome hsteps⟩

/-- A repair that is given up has made as many steps as it may read texts. -/
theorem steps_of_repair_error {e : Unsettled} (h : s.repair text = .error e) :
    ∃ changes last, changes.length = s.maxRounds ∧
      s.Steps (String.ofList (Text.unifyNewlines text.toList)) changes last := by
  unfold repair at h
  dsimp only at h
  cases hrun : s.run (String.ofList (Text.unifyNewlines text.toList)) [] [] s.maxRounds
      (String.ofList (Text.unifyNewlines text.toList)) with
  | error ds => exact steps_of_run_error hrun
  | ok o =>
    rw [hrun] at h
    have hgiven : (.ok o : Except Unsettled Outcome) = .error e := h
    simp at hgiven

/-- A relation that holds between a text and itself, is transitive and holds across every step holds
across all steps together. -/
theorem Steps.rel {R : String → String → Prop} (hrefl : ∀ a, R a a)
    (htrans : ∀ a b c, R a b → R b c → R a c)
    (hstep : ∀ a b change, s.step a = some (b, change) → R a b)
    (h : s.Steps text changes last) : R text last := by
  induction h with
  | none text => exact hrefl text
  | cons text edited last change changes hfirst _ ih =>
    exact htrans _ _ _ (hstep _ _ _ hfirst) ih

end Wireframe.Repair.Settings
