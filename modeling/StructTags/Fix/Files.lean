import StructTags.Diff.Hunk
import StructTags.File.Access
import StructTags.Fix.Basic
import StructTags.Model.Sources

/-!
# Fixing files

The safe fixes that diagnostics suggest are applied file by file, in the order of the paths. A file
whose text is not the one that was exported is left alone. In a preview nothing is written, and the
report shows what would change instead.
-/

namespace StructTags

/-- What was done about the fixes for some files. -/
structure FixReport where
  /-- The fixes that were applied: the path of the file and the name of the fix. -/
  applied : List (String × String) := []
  /-- What a preview shows of the files that would be written. -/
  diffs : List String := []
  /-- What went wrong on the way. -/
  log : List String := []
  /-- What put an end to the run. -/
  failure? : Option Error := none

namespace FixReport

/-- One report followed by another. -/
def append (a b : FixReport) : FixReport where
  applied := a.applied ++ b.applied
  diffs := a.diffs ++ b.diffs
  log := a.log ++ b.log
  failure? := b.failure?

/-- Whether a fix for the diagnostic was applied. -/
def resolves (r : FixReport) (d : Diagnostic) : Bool :=
  (Fix.collect [d] false).any fun fix =>
    r.applied.any fun (path, id) => Path.same path fix.location.file && id = fix.id

end FixReport

namespace Fix

/-- Adds a fix to those for its file. -/
def addToFile (fix : Fix) : List (String × List Fix) → List (String × List Fix)
  | [] => [(fix.location.file, [fix])]
  | (path, fixes) :: rest =>
    match Path.compare fix.location.file path with
    | .lt => (fix.location.file, [fix]) :: (path, fixes) :: rest
    | .eq => (path, fixes ++ [fix]) :: rest
    | .gt => (path, fixes) :: addToFile fix rest

/-- The fixes by file, in the order of the paths. -/
def byFile (fixes : List Fix) : List (String × List Fix) :=
  fixes.foldl (fun files fix => addToFile fix files) []

/-- Whether a file has changed since it was exported. -/
def isStale (sources : Sources) (path content : String) : Bool :=
  (sources.text? path).any (· ≠ content)

variable {m : Type → Type} [Monad m] [FileAccess m]

/-- Applies the fixes for one file. The result is written if `write` is set, and shown as a diff
otherwise. -/
def fixFile (sources : Sources) (write : Bool) (path : String) (fixes : List Fix) :
    m FixReport := do
  match ← FileAccess.readText path with
  | .error fault => return { log := [(Error.io path fault).message] }
  | .ok content =>
    if isStale sources path content then return {}
    let result := applyAll content fixes
    let log := result.errors.map fun e => "Fix error in " ++ path ++ ": " ++ e
    if result.applied.isEmpty then return { log }
    let applied := result.applied.map fun fix => (path, fix.id)
    if write then
      match ← FileAccess.write path result.content with
      | .ok () => return { applied, log }
      | .error fault => return { log, failure? := some (.io path fault) }
    else return { applied, diffs := [Diff.unified content result.content path], log }

/-- Applies the fixes for files one after the other, up to the first that cannot be written. -/
def fixFiles (sources : Sources) (write : Bool) : List (String × List Fix) → m FixReport
  | [] => return {}
  | (path, fixes) :: rest => do
    let report ← fixFile sources write path fixes
    if report.failure?.isSome then return report
    else return report.append (← fixFiles sources write rest)

/-- Applies the safe fixes that diagnostics about packages suggest. -/
def applySuggested (ds : List Diagnostic) (packages : List Package) (write : Bool) : m FixReport :=
  fixFiles (packages.flatMap (·.sources)) write (byFile (collect ds false))

end Fix

end StructTags
