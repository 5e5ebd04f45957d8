import StructTags.Diagnostic.Basic
import StructTags.Json.Value

/-!
# Diagnostics as documents

How diagnostics are written as JSON, and how they are read back.
-/

namespace StructTags

namespace Location

def toJson (l : Location) : Json :=
  .obj
    [("file", .str l.file),
     ("line", .nat l.line),
     ("column", .nat l.column),
     ("offset", .nat l.offset),
     ("length", .nat l.length)]

def ofDocument? (r : Reading) : Nat → Document → Option Location
  | 0, _ => none
  | _ + 1, d =>
    match d.fields? r ["file", "line", "column", "offset", "length"] with
    | some [some file, some line, some column, some offset, some length] => do
      return {
        file := ← file.text?
        line := ← line.natural?
        column := ← column.natural?
        offset := ← offset.natural?
        length := ← length.natural? }
    | _ => none

end Location

namespace Applicability

def toJson (a : Applicability) : Json := .str a.name

def ofDocument? (r : Reading) (d : Document) : Option Applicability := do
  ofName? (← d.choice? r)

end Applicability

namespace Severity

def toJson (s : Severity) : Json := .str s.name

def ofDocument? (r : Reading) (d : Document) : Option Severity := do
  ofName? (← d.choice? r)

end Severity

namespace Suggestion

def toJson (s : Suggestion) : Json :=
  .obj
    [("message", .str s.message),
     ("replacement", .str s.replacement),
     ("location", s.location.toJson),
     ("applicability", s.applicability.toJson)]

def ofDocument? (r : Reading) : Nat → Document → Option Suggestion
  | 0, _ => none
  | n + 1, d =>
    match d.fields? r ["message", "replacement", "location", "applicability"] with
    | some [some message, some replacement, some location, some applicability] => do
      return {
        message := ← message.text?
        replacement := ← replacement.text?
        location := ← Location.ofDocument? r n location
        applicability := ← Applicability.ofDocument? r applicability }
    | _ => none

end Suggestion

namespace Diagnostic

def toJson (d : Diagnostic) : Json :=
  .obj
    [("rule_id", .str d.ruleId),
     ("severity", d.severity.toJson),
     ("message", .str d.message),
     ("location", d.location.toJson),
     ("suggestions", .ofList Suggestion.toJson d.suggestions)]

def ofDocument? (r : Reading) : Nat → Document → Option Diagnostic
  | 0, _ => none
  | n + 1, d =>
    match d.fields? r ["rule_id", "severity", "message", "location", "suggestions"] with
    | some [some ruleId, some severity, some message, some location, some suggestions] => do
      return {
        ruleId := ← ruleId.text?
        severity := ← Severity.ofDocument? r severity
        message := ← message.text?
        location := ← Location.ofDocument? r n location
        suggestions := ← suggestions.listOf? n (Suggestion.ofDocument? r) }
    | _ => none

end Diagnostic

end StructTags
