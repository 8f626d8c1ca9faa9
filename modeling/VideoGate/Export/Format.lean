import VideoGate.Control.Options
import VideoGate.Export.Json
import VideoGate.Export.Text

/-!
# Exporting a snapshot

A snapshot is written to a file in one of three formats.  The file is made anew; if that is not
possible nothing is written, and if there is no room for the text it stays empty.
-/

namespace VideoGate

/-- The measurement under which snapshots are exported in the line protocol. -/
def standardMeasurement : String := "xdp_pipeline"

def ExportFormat.render (format : ExportFormat) (nanoseconds : Int)
    (snapshot : Snapshot Float) : String :=
  match format with
  | .json => snapshot.toValue.prettyText
  | .exposition => snapshot.exposition
  | .lineProtocol => snapshot.lineProtocol standardMeasurement nanoseconds

def writeExport (path text : String) : Operation Unit := do
  match (← Operation.files).create path with
  | .error _ => Operation.fail (.cannotMakeOutput path)
  | .ok (place, files) =>
    Operation.setFiles files
    match files.fill place text.toUTF8 with
    | .error _ => Operation.fail (.cannotWriteOutput path)
    | .ok files => Operation.setFiles files

end VideoGate
