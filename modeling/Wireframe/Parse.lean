import Wireframe.Analysis
import Wireframe.Diagnostic.Message

/-!
# Parsing

Reading a text as a document. The document is given exactly when no error was found; warnings are
given in any case.

`Config.parse` is `WireframeParser.parse` of `parser`, `Parsed` is its `ParseResult`, and
`Config.document` is `parse_or_raise`.
-/

namespace Wireframe

/-- What reading a text gave. -/
structure Parsed where
  /-- The document, unless there are errors. -/
  document : Option Document
  /-- The errors, in the order in which they were found. -/
  errors : List Diagnostic
  /-- The warnings, in the order in which they were found. -/
  warnings : List Diagnostic

namespace Parsed

/-- Whether there are no errors. -/
def success (r : Parsed) : Bool := r.errors.isEmpty

/-- The errors and then the warnings. -/
def diagnostics (r : Parsed) : List Diagnostic := r.errors ++ r.warnings

/-- What an analysis says about the document. -/
def ofAnalysis (a : Analysis) : Parsed :=
  let (errors, warnings) := bySeverity a.diagnostics
  { document := if errors = [] then some a.document else none
    errors
    warnings }

end Parsed

namespace Config

/-- Interactions together with what reads them. -/
def withReader (config : Config) (interactions : Option String) :
    Except SettingError (Option (InteractionReader × String)) :=
  match interactions, config.interactions with
  | none, _ => .ok none
  | some text, some reader => .ok (some (reader, text))
  | some _, none => .error .noInteractionReader

/-- What is found out about a text and a text of interactions for it. -/
def analyze (config : Config) (text : String) (interactions : Option String) :
    Except SettingError Analysis :=
  (config.withReader interactions).map (Analysis.ofText config text)

/-- The document that a text and a text of interactions for it describe. -/
def parse (config : Config) (text : String) (interactions : Option String) :
    Except SettingError Parsed :=
  (config.analyze text interactions).map Parsed.ofAnalysis

/-- The document that a text alone describes. -/
def parseText (config : Config) (text : String) : Parsed :=
  .ofAnalysis (.ofText config text none)

/-- A text alone is read under all settings. -/
theorem parse_none (config : Config) (text : String) :
    config.parse text none = .ok (config.parseText text) := rfl

end Config

/-- Why no document is given. -/
inductive ParseFailure where
  /-- The settings do not fit the request. -/
  | setting (e : SettingError)
  /-- There are errors in the text, whose line ends are unified here. -/
  | rejected (errors : List Diagnostic) (source : String)

/-- The document that a text describes, or why it describes none. -/
def Config.document (config : Config) (text : String) (interactions : Option String) :
    Except ParseFailure Document :=
  match config.parse text interactions with
  | .error e => .error (.setting e)
  | .ok result => match result.document with
    | some document => .ok document
    | none =>
      .error (.rejected result.errors (String.ofList (Text.unifyNewlines text.toList)))

end Wireframe
