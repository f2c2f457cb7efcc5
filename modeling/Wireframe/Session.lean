import Wireframe.Analysis.Record
import Wireframe.Parse
import Wireframe.Repair

/-!
# Sessions

Reading several texts under the same settings, where the record of the last reading is kept if one
was asked for.

A session is a `WireframeParser` of `parser` that is used more than once, and its record is what
`get_trace` gives.
-/

namespace Wireframe

/-- The settings for several texts, and the record of the last one. -/
structure Session where
  /-- The settings. -/
  config : Config
  /-- The record of the last reading, if one was asked for. -/
  trace : Option Trace

namespace Session

/-- A session in which nothing was read. -/
def start (config : Config) : Session := ⟨config, none⟩

/-- One more text read. A request that does not fit the settings leaves the session as it was. -/
def parse (s : Session) (text : String) (interactions : Option String) (debug : Bool) :
    Except SettingError (Parsed × Session) :=
  (s.config.analyze text interactions).map fun a =>
    (.ofAnalysis a, { s with trace := if debug then some (a.record text) else none })

/-- A text repaired under the settings of the session. The texts on the way are read without a
record. -/
def repair (s : Session) (settings : Repair.Settings) (text : String) :
    Except Repair.Unsettled Repair.Outcome × Session :=
  ({ settings with config := s.config }.repair text, { s with trace := none })

end Session

end Wireframe
