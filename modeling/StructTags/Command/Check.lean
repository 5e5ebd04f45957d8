import StructTags.Command.Summary
import StructTags.Config.Load
import StructTags.Export.Discovery
import StructTags.Fix.Files
import StructTags.Glob.Expansion
import StructTags.Model.Load
import StructTags.Rule.Linter

/-!
# Checking exports

The exports are found, loaded and linted, and fixes are applied or shown where that is asked for.
-/

namespace StructTags

namespace Command

/-- What a command leaves behind. -/
structure Outcome where
  code : Nat := 0
  out : String := ""
  err : String := ""
deriving DecidableEq, Repr

/-- What went wrong, as it is written. -/
def logText (log : List String) : String :=
  String.join (log.map fun message => "ERROR " ++ message ++ "\n")

/-- The outcome of a command that had to give up. -/
def Outcome.failed (log : List String) (e : Error) : Outcome where
  code := 2
  err := logText (log ++ ["taglint failed: " ++ e.message])

variable {m : Type → Type} [Monad m] [FileAccess m]

/-- Where the search for a configuration starts. -/
def startDirectory (paths : List String) : m String := do
  match paths with
  | [] => return "."
  | path :: _ =>
    match ← FileAccess.kind? path with
    | some .file => return ((Path.parent? path).filter (!·.isEmpty)).getD "."
    | some .directory => return path
    | none => return "."

/-- The configuration with the patterns of the command line in the place of its own. -/
def withPatterns (c : Config) (o : CheckOptions) : Config :=
  let included := if o.included.isEmpty then c.filesConfig.included else some o.included
  let excluded := if o.excluded.isEmpty then c.filesConfig.excluded else some o.excluded
  if o.included.isEmpty && o.excluded.isEmpty then c
  else { c with files := some { included, excluded } }

/-! ## Exports -/

/-- The exports below a directory. -/
def exportsBelow (c : FilesConfig) (root : String) : m (Except Error (List String)) := do
  match ExportFilter.ofConfig c with
  | .error fault => return .error (.config fault)
  | .ok filter => return .ok (← filter.discover root)

/-- The exports that a path of the command line stands for: a file itself, those below a directory,
or the files that a pattern matches. A path that is none of these stands for nothing. -/
def exportsAt (c : FilesConfig) (path : String) : m (Except Error (Option (List String))) := do
  match ← FileAccess.kind? path with
  | some .file => return .ok (some [path])
  | some .directory => return (← exportsBelow c path).map some
  | none =>
    if path.toList.contains '*' then
      match ← Glob.files path with
      | .error fault => return .error (.config (.invalidGlob path fault))
      | .ok files => return .ok (some files)
    else return .ok none

/-- The exports that paths stand for, and what went wrong on the way. -/
def exportsOf (c : FilesConfig) : List String → m (List String × Except Error (List String))
  | [] => return ([], .ok [])
  | path :: rest => do
    match ← exportsAt c path with
    | .error e => return ([], .error e)
    | .ok found? =>
      let (log, more) ← exportsOf c rest
      match found? with
      | some found => return (log, more.map (found ++ ·))
      | none => return (("Path does not exist: " ++ path) :: log, more)

/-- Drops the paths that stand before. -/
def dropRepeats (seen : List String) : List String → List String
  | [] => []
  | path :: rest =>
    if seen.any (Path.same path) then dropRepeats seen rest
    else path :: dropRepeats (path :: seen) rest

/-- The exports that are checked, each once. -/
def collectExports (c : FilesConfig) (paths : List String) :
    m (List String × Except Error (List String)) := do
  if paths.isEmpty then return ([], ← exportsBelow c ".")
  else
    let (log, exports) ← exportsOf c paths
    return (log, exports.map (dropRepeats []))

/-- The packages of exports. -/
structure Loaded where
  packages : List Package := []
  failures : Nat := 0
  log : List String := []

/-- Loads exports. Of those that cannot be loaded only the unreadable files are worth a word. -/
def loadAll : List String → m Loaded
  | [] => return {}
  | path :: rest => do
    let first ← Package.load path
    let more ← loadAll rest
    match first with
    | .ok package => return { more with packages := package.relocate path :: more.packages }
    | .error e =>
      let log := if e.isRecoverable then more.log else ("Fatal error: " ++ e.message) :: more.log
      return { more with failures := more.failures + 1, log }

/-! ## Checking -/

/-- The linter that a command line asks for. -/
def linterOf (c : Config) (o : CheckOptions) : Linter :=
  let linter := Linter.ofConfig c
  if o.dialects.isEmpty then linter else linter.withDialects o.dialects

/-- Writes results, with the differences that fixes would make behind them in a preview. -/
def present (o : CheckOptions) (noColor : Bool) (t : Terminal) (loaded : Loaded)
    (ds : List Diagnostic) (s : Summary) (log : List String) (diffs : List String) : Outcome :=
  let sources := loaded.packages.flatMap (·.sources)
  let out := results o.format (t.linePaint noColor) (t.reportPaint noColor) sources ds s
  let code := if loaded.failures = 0 && s.remaining = 0 then 0 else 1
  let err := logText log
  match o.format with
  | .human => { code, out := out ++ String.join (diffs.map ("\n" ++ ·)), err }
  | _ => { code, out, err := err ++ String.join diffs }

/-- Lints the packages of exports and fixes what can be fixed. -/
def checkLoaded (c : Config) (o : CheckOptions) (noColor : Bool) (t : Terminal)
    (log : List String) (loaded : Loaded) : m Outcome := do
  let ds := loaded.packages.flatMap (linterOf c o).lint
  let summary := Summary.ofDiagnostics loaded.packages.length ds
  let log := log ++ loaded.log
  if o.fix || o.diff then
    let write := o.fix && !o.diff
    let report ← Fix.applySuggested ds loaded.packages write
    let log := log ++ report.log
    match report.failure? with
    | some e => return .failed log e
    | none =>
      let fixed := if write then ds.countP report.resolves else 0
      let summary := { summary with fixesApplied := report.applied.length, fixed }
      return present o noColor t loaded ds summary log report.diffs
  else return present o noColor t loaded ds summary log []

def check (o : CheckOptions) (config? : Option String) (noColor : Bool) (t : Terminal) :
    m Outcome := do
  match ← Config.loadFor config? (← startDirectory o.paths) with
  | .error e => return .failed [] e
  | .ok c =>
    let c := withPatterns c o
    match ← collectExports c.filesConfig o.paths with
    | (log, .error e) => return .failed log e
    | (log, .ok []) =>
      return { out := "No model exports found in specified paths.\n", err := logText log }
    | (log, .ok exports) => checkLoaded c o noColor t log (← loadAll exports)

end Command

end StructTags
