import StructTags.Diagnostic.Json
import StructTags.Json.Printer
import StructTags.Report.Sarif
import StructTags.Report.Text

/-!
# Report formats
-/

namespace StructTags

namespace Report

inductive Format where
  | text
  | json
  | sarif
deriving DecidableEq, Repr

/-- The report about diagnostics in a format. Only text reports make use of the style. -/
def render (format : Format) (s : Style) (ds : List Diagnostic) : String :=
  match format with
  | .text => text s ds
  | .json => (Json.ofList Diagnostic.toJson ds).pretty
  | .sarif => (Sarif.report ds).pretty

end Report

end StructTags
