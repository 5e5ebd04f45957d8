import StructTags.Command.Arguments
import StructTags.Diagnostic.Collector
import StructTags.Report.Format

/-!
# Results of a check
-/

namespace StructTags

namespace Command

/-- What can be said about the place that a command writes to. -/
structure Terminal where
  /-- Whether it is one at all and not a file or a pipe. -/
  isTerminal : Bool
  /-- Whether the environment asks for no colours. -/
  plain : Bool
deriving DecidableEq, Repr

/-- The colours of a command's own lines. -/
def Terminal.linePaint (t : Terminal) (noColor : Bool) : Paint :=
  ⟨!noColor && !t.plain⟩

/-- The colours of reports, which are only for terminals. -/
def Terminal.reportPaint (t : Terminal) (noColor : Bool) : Paint :=
  ⟨!noColor && !t.plain && t.isTerminal⟩

/-- The numbers of a check. -/
structure Summary where
  filesChecked : Nat
  errors : Nat
  warnings : Nat
  infos : Nat
  fixesApplied : Nat := 0
  /-- The diagnostics whose fixes were written. -/
  fixed : Nat := 0
deriving DecidableEq, Repr

namespace Summary

def ofDiagnostics (filesChecked : Nat) (ds : List Diagnostic) : Summary where
  filesChecked := filesChecked
  errors := Diagnostics.countOf .error ds
  warnings := Diagnostics.countOf .warning ds
  infos := Diagnostics.countOf .info ds

def total (s : Summary) : Nat :=
  s.errors + s.warnings + s.infos

/-- The diagnostics that are left. -/
def remaining (s : Summary) : Nat :=
  s.total - s.fixed

/-- A line with a number, unless that is zero. -/
def countLine (paint : Paint) (label : String) (color : Color) (n : Nat) : String :=
  if n = 0 then "" else label ++ paint.apply color (toString n) ++ "\n"

def text (paint : Paint) (s : Summary) : String :=
  "\n" ++ paint.apply .bold "Summary:" ++ "\n"
    ++ "  Files checked: " ++ toString s.filesChecked ++ "\n"
    ++ (if s.total = 0 then ""
      else
        "  Issues found:\n"
          ++ countLine paint "    Errors: " .red s.errors
          ++ countLine paint "    Warnings: " .yellow s.warnings
          ++ countLine paint "    Info: " .blue s.infos)
    ++ countLine paint "  Fixes applied: " .green s.fixesApplied

def toJson (s : Summary) : Json :=
  .obj
    [("errors", .nat s.errors),
     ("warnings", .nat s.warnings),
     ("info", .nat s.infos),
     ("total", .nat s.total),
     ("fixesApplied", .nat s.fixesApplied)]

end Summary

/-- What a check writes about its results. -/
def results (format : OutputFormat) (linePaint reportPaint : Paint) (sources : Sources)
    (ds : List Diagnostic) (s : Summary) : String :=
  match format with
  | .human =>
    let report :=
      if ds.isEmpty then linePaint.apply .green "✓" ++ " No issues found\n"
      else Report.text { paint := reportPaint, sources } ds ++ "\n"
    report ++ s.text linePaint
  | .json =>
    let result := Json.obj
      [("filesChecked", .nat s.filesChecked),
       ("issues", .ofList Diagnostic.toJson ds),
       ("summary", s.toJson)]
    result.pretty ++ "\n"
  | .sarif => (Sarif.report ds).pretty ++ "\n"

end Command

end StructTags
