import Wireframe.Proofs.Repair.Circles

/-!
# The number of rounds of repair

Each round of repair reads one text and makes one step, and a text from which no step can be made
ends it. So with `n + 1` rounds repair ends exactly if the chain of steps stops within `n` of them,
and what it gives then does not depend on the number of rounds; otherwise the text read last is the
one behind `n` steps, and the step made from it is thrown away (`repair_rounds`).

A strategy that is asked to repair a problem finds all details that it looks up
(`exists_apply_eq_ok`), so repair can end in no other way.
-/

namespace Wireframe.Repair

/-! ## Details -/

/-- A strategy that is made for a problem that applies to the text finds the details it needs. -/
theorem Strategy.exists_edit_eq_ok {strategy : Strategy} {lines : List Line} {d : Diagnostic}
    (h : d.Applies lines) (hkind : strategy.kind = d.kind) :
    ∃ made, strategy.edit lines d = .ok made := by
  cases h with
  | tab row col tabCol snippet _ =>
    cases strategy with
    | tab columns => exact ⟨_, rfl⟩
    | _ => cases hkind
  | pipe row expected actual _ _ _ =>
    cases strategy with
    | pipe => exact ⟨_, rfl⟩
    | _ => cases hkind
  | bracket row col content _ _ _ =>
    cases strategy with
    | bracket => exact ⟨_, rfl⟩
    | _ => cases hkind
  | width top left right bottom bottomLeft bottomRight topWidth bottomWidth _ _ _ _ =>
    cases strategy with
    | width => exact ⟨_, fixWidth_mismatchedWidth ..⟩
    | _ => cases hkind
  | other _ hother =>
    rw [← hkind] at hother
    cases strategy <;> simp [Strategy.kind, Diagnostic.Kind.repairable] at hother

namespace Settings

variable {s : Settings} {text edited last before : String} {change : Change}
  {changes earlier : List Change} {ds ds' : List Diagnostic}

/-- A strategy finds the details that it needs of every problem of its kind in the text. -/
theorem exists_apply_eq_ok {strategy : Strategy} {d : Diagnostic} (hd : d ∈ s.problems text)
    (hkind : strategy.kind = d.kind) : ∃ made, strategy.apply text d = .ok made := by
  obtain ⟨made, hmade⟩ :=
    Strategy.exists_edit_eq_ok (Config.applies_of_mem_diagnostics hd) hkind
  refine ⟨made.map fun e => (Text.block e.lines, ⟨d, e.description⟩), ?_⟩
  rw [Strategy.apply, hmade]
  rfl

/-! ## Rounds -/

/-- A round that reads a text from which no step can be made is the last one. -/
theorem run_of_step_eq_none (h : s.step text = none) (rounds : Nat) :
    s.run before earlier ds (rounds + 1) text = .ok ⟨before, text, earlier, s.problems text⟩ := by
  unfold run
  dsimp only
  rw [show s.firstRepair text (s.problems text) = none from h]

/-- A round that reads any other text makes a step. -/
theorem run_of_step (h : s.step text = some (edited, change)) (rounds : Nat) :
    s.run before earlier ds (rounds + 1) text =
      s.run before (earlier ++ [change]) (s.problems text) rounds edited := by
  conv_lhs => unfold run
  dsimp only
  rw [show s.firstRepair text (s.problems text) = some (edited, change) from h]

/-- As many rounds as there are steps lead to the text behind the steps, if there are more. -/
theorem run_of_steps (h : s.Steps text changes last) (rounds : Nat) (ds' : List Diagnostic) :
    s.run before earlier ds (changes.length + (rounds + 1)) text =
      s.run before (earlier ++ changes) ds' (rounds + 1) last := by
  induction h generalizing earlier ds with
  | none text =>
    rw [List.append_nil, List.length_nil, Nat.zero_add]
    rfl
  | cons text edited last change changes hstep _ ih =>
    have hlength : (change :: changes).length + (rounds + 1) =
        changes.length + (rounds + 1) + 1 := by
      rw [List.length_cons]
      omega
    rw [hlength, run_of_step hstep, ih, List.append_assoc, List.singleton_append]

/-- Rounds that suffice for all steps give the text behind them. -/
theorem run_eq_ok (h : s.Steps text changes last) (hdone : s.step last = none) {rounds : Nat}
    (hrounds : changes.length ≤ rounds) :
    s.run before earlier ds (rounds + 1) text =
      .ok ⟨before, last, earlier ++ changes, s.problems last⟩ := by
  obtain ⟨more, rfl⟩ := Nat.exists_eq_add_of_le hrounds
  rw [Nat.add_assoc, run_of_steps h more [], run_of_step_eq_none hdone]

/-- If more steps can be made than there are rounds, the problems of the text read last are left. -/
theorem run_eq_error (h : s.Steps text changes last) (hmore : s.step last ≠ none) :
    s.run before earlier ds (changes.length + 1) text = .error (s.problems last) := by
  obtain ⟨⟨edited, change⟩, hstep⟩ := Option.ne_none_iff_exists'.1 hmore
  rw [run_of_steps h 0 [], run_of_step hstep, run]

/-- Changes that were made before, and the text before them, are only carried along. -/
theorem run_prepend (s : Settings) (before before' : String) (earlier changes : List Change)
    (ds : List Diagnostic) (rounds : Nat) (text : String) :
    s.run before (earlier ++ changes) ds rounds text =
      (s.run before' changes ds rounds text).map fun o =>
        ⟨before, o.text, earlier ++ o.changes, o.remaining⟩ := by
  induction rounds generalizing changes ds text with
  | zero => rfl
  | succ rounds ih =>
    cases hstep : s.step text with
    | none =>
      rw [run_of_step_eq_none hstep, run_of_step_eq_none hstep]
      rfl
    | some made => rw [run_of_step hstep, run_of_step hstep, List.append_assoc, ih]

/-- From every text, the steps stop within a number of them or as many can be made and one more. -/
theorem exists_steps (s : Settings) (n : Nat) (text : String) :
    ∃ changes last, s.Steps text changes last ∧
      (changes.length ≤ n ∧ s.step last = none ∨ changes.length = n ∧ s.step last ≠ none) := by
  induction n generalizing text with
  | zero =>
    refine ⟨[], text, .none text, ?_⟩
    by_cases hstep : s.step text = none
    · exact .inl ⟨Nat.le_refl 0, hstep⟩
    · exact .inr ⟨rfl, hstep⟩
  | succ n ih =>
    cases hstep : s.step text with
    | none => exact ⟨[], text, .none text, .inl ⟨Nat.zero_le _, hstep⟩⟩
    | some made =>
      obtain ⟨changes, last, hsteps, hends⟩ := ih made.1
      refine ⟨made.2 :: changes, last, .cons text made.1 last made.2 changes hstep hsteps, ?_⟩
      rw [List.length_cons]
      exact hends.imp (fun ⟨hle, hdone⟩ => ⟨Nat.succ_le_succ hle, hdone⟩)
        fun ⟨heq, hmore⟩ => ⟨congrArg Nat.succ heq, hmore⟩

/-! ## The number of rounds -/

/-- The text with its line ends unified, which is the first one that is read. -/
def start (text : String) : String := String.ofList (Text.unifyNewlines text.toList)

/-- A text without carriage returns is read as it is. -/
theorem start_eq (h : '\r' ∉ text.toList) : start text = text := by
  rw [start, Text.unifyNewlines_eq_self h, String.ofList_toList]

/-- The chain of steps from a text stops at another one after a number of steps. -/
def StopsAfter (s : Settings) (steps : Nat) (text last : String) : Prop :=
  s.after steps text = some last ∧ s.step last = none

/-- A chain that goes on stops no earlier. -/
theorem not_stopsAfter_of_after {steps n : Nat} (h : s.after n text = some edited)
    (hlt : steps < n) (last : String) : ¬ s.StopsAfter steps text last := by
  rintro ⟨hafter, hdone⟩
  obtain ⟨more, rfl⟩ := Nat.exists_eq_add_of_lt hlt
  rw [Nat.add_assoc, after_add, hafter, Option.bind_some, after, hdone, Option.bind_none] at h
  simp at h

/-- The settings with another number of rounds. -/
def withRounds (s : Settings) (rounds : Nat) : Settings := { s with maxRounds := rounds }

/-- What a run gives depends on the number of rounds that are left and on no other one. -/
theorem run_withRounds (s : Settings) (more rounds : Nat) :
    (s.withRounds more).run before earlier ds rounds text = s.run before earlier ds rounds text := by
  induction rounds generalizing earlier ds text with
  | zero => rfl
  | succ rounds ih =>
    cases hstep : s.step text with
    | none =>
      have hsame : (s.withRounds more).step text = none := hstep
      rw [run_of_step_eq_none hsame, run_of_step_eq_none hstep]
      rfl
    | some made =>
      have hsame : (s.withRounds more).step text = some made := hstep
      rw [run_of_step hsame, run_of_step hstep, ih]
      rfl

/-- Repair with a number of rounds is as many rounds from the text with its line ends unified. -/
theorem repair_withRounds (s : Settings) (rounds : Nat) (text : String) :
    (s.withRounds rounds).repair text =
      (s.run (start text) [] [] rounds (start text)).mapError (⟨rounds, ·⟩) := by
  rw [← run_withRounds s rounds]
  rfl

/-- Once some steps were made, repair is that of the text behind them with as many rounds less. -/
theorem repair_of_steps (hreturn : '\r' ∉ text.toList) (hreturn' : '\r' ∉ edited.toList)
    (h : s.Steps text changes edited) (rounds : Nat) :
    (s.withRounds (changes.length + rounds + 1)).repair text =
      match (s.withRounds (rounds + 1)).repair edited with
      | .error e => .error ⟨changes.length + rounds + 1, e.diagnostics⟩
      | .ok o => .ok ⟨text, o.text, changes ++ o.changes, o.remaining⟩ := by
  have hrun := run_prepend s text edited changes [] [] (rounds + 1) edited
  rw [List.append_nil] at hrun
  rw [repair_withRounds, repair_withRounds, start_eq hreturn, start_eq hreturn', Nat.add_assoc,
    run_of_steps h rounds [], List.nil_append, hrun]
  cases s.run edited [] [] (rounds + 1) edited <;> rfl

/-- With more rounds than steps can be made, repair gives the text at which the chain stops. -/
theorem exists_repair_of_stopsAfter {steps : Nat} (h : s.StopsAfter steps (start text) last) :
    ∃ changes, changes.length = steps ∧ s.Steps (start text) changes last ∧
      ∀ n, steps ≤ n → (s.withRounds (n + 1)).repair text =
        .ok ⟨start text, last, changes, s.problems last⟩ := by
  obtain ⟨hafter, hdone⟩ := h
  obtain ⟨changes, rfl, hsteps⟩ := after_eq_some_iff.1 hafter
  refine ⟨changes, rfl, hsteps, fun n hn => ?_⟩
  rw [repair_withRounds, run_eq_ok hsteps hdone hn, List.nil_append]
  rfl

/-- With as many rounds as steps can be made or fewer, repair is given up. -/
theorem exists_repair_of_not_stopsAfter {n : Nat}
    (h : ∀ steps ≤ n, ∀ last, ¬ s.StopsAfter steps (start text) last) :
    ∃ last, s.after n (start text) = some last ∧
      (s.withRounds (n + 1)).repair text = .error ⟨n + 1, s.problems last⟩ := by
  obtain ⟨changes, last, hsteps, ⟨hle, hdone⟩ | ⟨rfl, hmore⟩⟩ := exists_steps s n (start text)
  · exact absurd ⟨after_eq_some_iff.2 ⟨changes, rfl, hsteps⟩, hdone⟩ (h changes.length hle last)
  · refine ⟨last, after_eq_some_iff.2 ⟨changes, rfl, hsteps⟩, ?_⟩
    rw [repair_withRounds, run_eq_error hsteps hmore]
    rfl

/-- Let the chain start at the text with its line ends unified. If it stops after a number of steps,
repair with more rounds than that gives the text at which it stops, the changes on the way and the
problems that are left, with any number of such rounds the same. If it does not stop within `n`
steps, repair with `n + 1` rounds is given up, and what is shown are the problems of the text behind
`n` steps. With the usual settings and nothing but the text asked for, that is the text at which the
chain stops within ninety-nine steps, and otherwise the text as it was. And no strategy fails to
find a detail of a problem that it is made for. -/
theorem repair_rounds (s : Settings) (text : String) :
    (∀ steps last, s.StopsAfter steps (start text) last →
      ∃ changes, changes.length = steps ∧ s.Steps (start text) changes last ∧
        ∀ n, steps ≤ n → (s.withRounds (n + 1)).repair text =
          .ok ⟨start text, last, changes, s.problems last⟩) ∧
    (∀ n, (∀ steps ≤ n, ∀ last, ¬ s.StopsAfter steps (start text) last) →
      ∃ last, s.after n (start text) = some last ∧
        (s.withRounds (n + 1)).repair text = .error ⟨n + 1, s.problems last⟩) ∧
    (∀ steps ≤ 99, ∀ last, default.StopsAfter steps (start text) last → repaired text = last) ∧
    ((∀ steps ≤ 99, ∀ last, ¬ default.StopsAfter steps (start text) last) →
      repaired text = text) ∧
    ∀ strategy : Strategy, ∀ t, ∀ d ∈ s.problems t, strategy.kind = d.kind →
      ∃ made, strategy.apply t d = .ok made := by
  refine ⟨fun steps last => exists_repair_of_stopsAfter,
    fun n => exists_repair_of_not_stopsAfter, fun steps hsteps last hstops => ?_,
    fun hnever => ?_, fun strategy t d => exists_apply_eq_ok⟩
  · obtain ⟨changes, -, -, hrepair⟩ := exists_repair_of_stopsAfter hstops
    have hdefault : default.repair text = _ := hrepair 99 hsteps
    rw [repaired, hdefault]
  · obtain ⟨last, -, hrepair⟩ := exists_repair_of_not_stopsAfter hnever
    have hdefault : default.repair text = _ := hrepair
    rw [repaired, hdefault]

/-- A box with one bracket that is not closed. -/
def openBracket : String := "+------+\n| [b   |\n+------+"

/-- One round closes the bracket and is not enough; with two or more, nothing is left. -/
theorem repair_rounds_openBracket :
    (default.withRounds 1).repair openBracket = .error ⟨1, default.problems openBracket⟩ ∧
      ∃ changes, changes.length = 1 ∧
        ∀ n, 1 ≤ n → (default.withRounds (n + 1)).repair openBracket =
          .ok ⟨openBracket, "+------+\n| [b ] |\n+------+", changes, []⟩ := by
  have hstart : start openBracket = openBracket := by decide +kernel
  have hstops : default.StopsAfter 1 openBracket "+------+\n| [b ] |\n+------+" :=
    ⟨by decide +kernel, by decide +kernel⟩
  have hclean : default.problems "+------+\n| [b ] |\n+------+" = [] := by decide +kernel
  have hopen : default.step openBracket ≠ none := by decide +kernel
  obtain ⟨hends, hfails, -⟩ := repair_rounds default openBracket
  rw [hstart] at hends hfails
  have hmore : ∀ steps ≤ 0, ∀ last, ¬ default.StopsAfter steps openBracket last := by
    rintro steps hsteps last ⟨hafter, hdone⟩
    obtain rfl : steps = 0 := by omega
    obtain rfl := Option.some.inj hafter
    exact hopen hdone
  obtain ⟨last, hafter, herror⟩ := hfails 0 hmore
  obtain rfl := Option.some.inj hafter
  obtain ⟨changes, hlength, -, hok⟩ := hends 1 _ hstops
  rw [hclean] at hok
  exact ⟨herror, changes, hlength, hok⟩

end Settings

end Wireframe.Repair
