import Wireframe.Content.Recognizer
import Wireframe.Interaction

/-!
# Configuration

The settings under which a document is read and repaired, and what is wrong with settings that are
refused.

`Config.make` makes the checks of the constructor of `WireframeParser` in `parser`, and
`Nesting.checkDepth` those of the constructor of `HierarchyBuilder` in `hierarchy`.
-/

namespace Wireframe

/-- Why settings are refused. -/
inductive SettingError where
  /-- The number of levels before a warning is negative. -/
  | negativeNesting
  /-- The distance in which misplaced pieces of an edge are looked for is negative. -/
  | negativeRadius
  /-- The number of levels before a warning is negative, where boxes alone are nested. -/
  | negativeDepth
  /-- Repair may not make a single round. -/
  | noRounds
  /-- A tab is no column wide. -/
  | noTabWidth
  /-- Interactions are given and nothing can read them. -/
  | noInteractionReader
  deriving DecidableEq

/-- What is said of settings that are refused. -/
def SettingError.message : SettingError → String
  | .negativeNesting => "max_nesting_depth must be non-negative"
  | .negativeRadius => "pipe_search_radius must be non-negative"
  | .negativeDepth => "max_depth must be non-negative"
  | .noRounds => "max_iterations must be at least 1"
  | .noTabWidth => "tab_width must be at least 1"
  | .noInteractionReader => "interactions given but no interaction_parser configured"

/-- The settings for reading a document. -/
structure Config where
  /-- The number of levels of nesting above which a warning is given. -/
  maxNesting : Nat
  /-- The number of columns around an edge in which a misplaced piece of it is looked for. -/
  radius : Nat
  /-- What reads texts that describe interactions. -/
  interactions : Option InteractionReader
  /-- What content is read with. -/
  recognizers : List Recognizer

namespace Config

/-- The usual settings: four levels, three columns, all recognizers and no interactions. -/
def default : Config := ⟨4, 3, none, Recognizer.all⟩

/-- The given settings, unless a number is negative. The levels are looked at first. -/
def make (maxNesting radius : Int) (interactions : Option InteractionReader)
    (recognizers : List Recognizer) : Except SettingError Config :=
  if maxNesting < 0 then .error .negativeNesting
  else if radius < 0 then .error .negativeRadius
  else .ok ⟨maxNesting.toNat, radius.toNat, interactions, recognizers⟩

end Config

/-- The number of levels before a warning, where boxes alone are nested. -/
def Nesting.checkDepth (maxDepth : Int) : Except SettingError Nat :=
  if maxDepth < 0 then .error .negativeDepth else .ok maxDepth.toNat

end Wireframe
