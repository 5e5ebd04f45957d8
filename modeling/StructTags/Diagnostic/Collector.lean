import StructTags.Diagnostic.Basic

/-!
# Collected diagnostics

Diagnostics in the order they were reported, and what can be asked of them.
-/

namespace StructTags

namespace Diagnostics

/-- Sorts by place; diagnostics at one place keep their order. -/
def sortByLocation (ds : List Diagnostic) : List Diagnostic :=
  ds.mergeSort fun a b => a.location.compare b.location ≠ .gt

def hasErrors (ds : List Diagnostic) : Bool :=
  ds.any (·.severity = .error)

def countOf (severity : Severity) (ds : List Diagnostic) : Nat :=
  ds.countP (·.severity = severity)

/-- The rules that reported something, each once, in the order of their first report. -/
def reportingRules (ds : List Diagnostic) : List String :=
  (ds.map (·.ruleId)).eraseDups

/-- The diagnostics of every rule that reported something. -/
def groupByRule (ds : List Diagnostic) : List (String × List Diagnostic) :=
  (reportingRules ds).map fun id => (id, ds.filter (·.ruleId = id))

end Diagnostics

end StructTags
