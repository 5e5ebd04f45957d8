import StructTags.Diagnostic.Basic
import StructTags.Json.Value

/-!
# SARIF reports

The interchange format for results of static analysis, version 2.1.0.
-/

namespace StructTags

namespace Sarif

def toolName : String := "taglint"

def toolVersion : String := "0.1.0"

def level : Severity → String
  | .error => "error"
  | .warning => "warning"
  | .info => "note"

def location (l : Location) : Json :=
  .obj
    [("physicalLocation", .obj
      [("artifactLocation", .obj [("uri", .str l.file)]),
       ("region", .obj
        [("startLine", .nat l.line),
         ("startColumn", .nat l.column),
         ("charOffset", .nat l.offset),
         ("charLength", .nat l.length)])])]

def result (d : Diagnostic) : Json :=
  .obj
    [("ruleId", .str d.ruleId),
     ("level", .str (level d.severity)),
     ("message", .obj [("text", .str d.message)]),
     ("locations", .arr [location d.location])]

def report (ds : List Diagnostic) : Json :=
  .obj
    [("version", .str "2.1.0"),
     ("runs", .arr
      [.obj
        [("tool", .obj
          [("driver", .obj [("name", .str toolName), ("version", .str toolVersion)])]),
         ("results", .ofList result ds)]])]

end Sarif

end StructTags
