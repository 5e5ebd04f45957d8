import StructTags.Config.Basic
import StructTags.Diagnostic.Collector
import StructTags.Rule.Table

/-!
# The linter

A run goes through the dialects one after the other. Every dialect comes upon the tags that cannot
be decoded, so repeats of those reports are dropped; then settings are applied, and the reports
are sorted by place.
-/

namespace StructTags

structure Linter where
  dialects : List Dialect := Dialect.all
  /-- Settings of single rules. -/
  settings : List (String × RuleSetting) := []
  enabled : Bool := true
deriving DecidableEq, Repr

namespace Linter

def ofConfig (c : Config) : Linter where
  dialects := c.enabledDialects
  settings := c.linterConfig.rules.getD []
  enabled := c.isLinterEnabled

/-- The linter restricted to the given dialects. -/
def withDialects (l : Linter) (ds : List Dialect) : Linter :=
  { l with dialects := Dialect.normalize ds }

/-- Drops a report of a tag that cannot be decoded if there is one at the same position before it
or among the places `seen`. -/
def dropRepeats (seen : List Location) : List Diagnostic → List Diagnostic
  | [] => []
  | d :: rest =>
    if d.ruleId ≠ Checker.invalidTag then d :: dropRepeats seen rest
    else if seen.any d.location.samePosition then dropRepeats seen rest
    else d :: dropRepeats (d.location :: seen) rest

/-- A diagnostic under the linter's settings. -/
def adjust? (l : Linter) (d : Diagnostic) : Option Diagnostic :=
  match l.settings.lookup d.ruleId with
  | none => some d
  | some setting => setting.severity?.map fun severity => { d with severity }

/-- The reports of all dialects, one dialect after the other. -/
def reports (l : Linter) (p : Package) : List Diagnostic :=
  l.dialects.flatMap fun dialect => dialect.checker.run p

def lint (l : Linter) (p : Package) : List Diagnostic :=
  if l.enabled then
    Diagnostics.sortByLocation ((dropRepeats [] (l.reports p)).filterMap l.adjust?)
  else []

end Linter

end StructTags
