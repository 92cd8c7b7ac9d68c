/-!
# Export errors

An exporter hands finished spans or view data to some other system and may fail at it.
-/

namespace Telemetry

/-- The failure of an exporter. -/
structure ExportError where
  /-- What the exporter is called. -/
  exporter : String
  /-- What it says. -/
  reason : String
  deriving DecidableEq, Repr

/-- The wording of the error. -/
def ExportError.message (e : ExportError) : String :=
  "Exporter " ++ e.exporter ++ " failed with " ++ e.reason

end Telemetry
