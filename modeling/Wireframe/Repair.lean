import Wireframe.Difference
import Wireframe.Parse
import Wireframe.Repair.Strategy

/-!
# Repair

Repairing a text step by step. A step reads the text, repairs the first problem that can be
repaired, and leaves the rest to the next step, since every change may move later problems. Tabs
come first. Repair ends when no step can be made, or is given up after a number of texts were read.

`Settings` are those of a `Fixer` of `fixer` and an `Outcome` is its `FixResult`. `Settings.repair`
is `Fixer.fix`, which makes a `step` for each call of `_apply_first`, here `firstRepair`; `repaired`
is `fix_only`.
-/

namespace Wireframe.Repair

/-- The settings for repairing a text. -/
structure Settings where
  /-- How texts are read. -/
  config : Config
  /-- The strategies, in the order in which they are tried. -/
  strategies : List Strategy
  /-- The number of texts that are read before repair is given up. -/
  maxRounds : Nat

/-- What repair gave. -/
structure Outcome where
  /-- The text before all changes, with line ends unified. -/
  before : String
  /-- The text after all changes. -/
  text : String
  /-- The changes in their order. -/
  changes : List Change
  /-- The problems that are left. -/
  remaining : List Diagnostic

/-- Repair that was given up. -/
structure Unsettled where
  /-- The number of texts that were read. -/
  rounds : Nat
  /-- The problems of the last text that was read. -/
  diagnostics : List Diagnostic

/-- What is said of repair that was given up. -/
def Unsettled.message (e : Unsettled) : String :=
  "Fixing did not settle after " ++ Text.decimal e.rounds ++ " iterations"

namespace Outcome

/-- Whether anything was changed. -/
def changed (o : Outcome) : Bool := !o.changes.isEmpty

/-- What was changed on each line. -/
def notes (o : Outcome) : List (Int × List String) :=
  o.changes.foldl (fun notes c =>
    Keyed.set notes c.line ((notes.lookup c.line).getD [] ++ [c.description])) []

/-- The texts before and after repair compared. -/
def difference (o : Outcome) : String := Difference.text o.before o.text 2 o.notes

end Outcome

namespace Settings

/-- The strategies that are tried unless others are given. -/
def defaultStrategies (tabWidth : Int) : List Strategy := [.tab tabWidth, .width, .pipe, .bracket]

/-- The given settings, unless a number is too small. The number of rounds is looked at first. -/
def make (config : Config) (maxRounds tabWidth : Int) (strategies : Option (List Strategy)) :
    Except SettingError Settings :=
  if maxRounds < 1 then .error .noRounds
  else if tabWidth < 1 then .error .noTabWidth
  else .ok ⟨config, strategies.getD (defaultStrategies tabWidth), maxRounds.toNat⟩

/-- The usual settings: a hundred rounds, and two columns for a tab. -/
def default : Settings := ⟨.default, defaultStrategies 2, 100⟩

/-- Problems in the order in which their repair is tried: tabs first. -/
def inOrder (ds : List Diagnostic) : List Diagnostic :=
  ds.filter (fun d => decide (d.kind = .unusualSpacing)) ++
    ds.filter fun d => decide (d.kind ≠ .unusualSpacing)

/-- The repair of a problem by a strategy that is made for it and changes the text. -/
def tryStrategy (text : String) (d : Diagnostic) (s : Strategy) : Option (String × Change) :=
  if s.repairs d.kind then
    match s.apply text d with
    | .ok (some (edited, change)) => if edited = text then none else some (edited, change)
    | _ => none
  else none

/-- The first repair that can be made, given the problems of a text. -/
def firstRepair (s : Settings) (text : String) (ds : List Diagnostic) : Option (String × Change) :=
  (inOrder ds).findSome? fun d => s.strategies.findSome? (tryStrategy text d)

/-- The problems of a text. -/
def problems (s : Settings) (text : String) : List Diagnostic :=
  (s.config.parseText text).diagnostics

/-- A text after one repair, if one can be made. -/
def step (s : Settings) (text : String) : Option (String × Change) :=
  s.firstRepair text (s.problems text)

/-- Steps from a text on until none can be made, with at most `rounds` texts read, or the problems
of the text that was read last. The changes so far and the problems of the text before are given. -/
def run (s : Settings) (before : String) (changes : List Change) (last : List Diagnostic) :
    Nat → String → Except (List Diagnostic) Outcome
  | 0, _ => .error last
  | rounds + 1, text =>
    let ds := s.problems text
    match s.firstRepair text ds with
    -- A text that needs no change counts as settled, also in the last round.
    | none => .ok ⟨before, text, changes, ds⟩
    | some (edited, change) => run s before (changes ++ [change]) ds rounds edited

/-- A text with everything repaired that can be. -/
def repair (s : Settings) (text : String) : Except Unsettled Outcome :=
  let before := String.ofList (Text.unifyNewlines text.toList)
  (s.run before [] [] s.maxRounds before).mapError (⟨s.maxRounds, ·⟩)

end Settings

/-- A text with everything repaired that can be under the usual settings; if that is given up, the
text as it was. -/
def repaired (text : String) : String :=
  match Settings.default.repair text with
  | .ok o => o.text
  | .error _ => text

end Wireframe.Repair
