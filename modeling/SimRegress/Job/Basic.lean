import SimRegress.Time.Duration
import SimRegress.Tree.Basic

/-!
Jobs: the examples of a run, each with the way it is run, the time its reference run took,
whether it may fail, and its labels.

An example's kind is read off the files its directory holds; the two kinds that export a model
for co-simulation or model exchange say which one with `cosim`.
-/

namespace SimRegress

/-- How an example is run. -/
inductive ExampleKind where
  /-- Built with `make`, then run. -/
  | compiled
  /-- An XML project, preprocessed and run. -/
  | xml
  /-- An XML project already flat, run as it is. -/
  | flatXml
  /-- An XML project exported to a model unit and checked. -/
  | fmiXml (cosim : Bool)
  /-- A compiled model library exported to a model unit and checked. -/
  | fmiSource (cosim : Bool)
  deriving DecidableEq, Repr

/-- The short name of a kind, as filters and reports use it. -/
def ExampleKind.name : ExampleKind → String
  | .compiled => "compiled"
  | .xml => "xml"
  | .flatXml => "flat-xml"
  | .fmiXml _ => "fmi-xml"
  | .fmiSource _ => "fmi-source"

/-- Whether the kind exports a model unit. -/
def ExampleKind.isFmi : ExampleKind → Bool
  | .fmiXml _ | .fmiSource _ => true
  | _ => false

/-- For an exporting kind, whether it exports for co-simulation. -/
def ExampleKind.cosim? : ExampleKind → Option Bool
  | .fmiXml c | .fmiSource c => some c
  | _ => none

/-- One example to run. -/
structure Job where
  /-- The example's path below the examples root, its components joined by `/`. -/
  id : String
  /-- The example's directory, its components below the root of the file system. -/
  path : TreePath := []
  kind : ExampleKind := .xml
  /-- How long the reference run took, if known. -/
  referenceDuration : Option Duration := none
  /-- A failure of this job does not fail the run. -/
  mayFail : Bool := false
  labels : List String := ["nightly"]
  deriving Repr

end SimRegress
