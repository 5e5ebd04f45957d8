import StructTags.Config.Basic
import StructTags.Error

/-!
# Which files are exports

A file below a root directory is taken for an export if its path, as seen from the root, matches
one of the patterns to include and none of those to exclude.
-/

namespace StructTags

structure ExportFilter where
  included : List Glob.Pattern
  excluded : List Glob.Pattern

namespace ExportFilter

def compile (patterns : List String) : Except ConfigFault (List Glob.Pattern) :=
  patterns.mapM fun pattern =>
    match Glob.parse pattern with
    | .ok compiled => .ok compiled
    | .error fault => .error (.invalidGlob pattern fault)

/-- Patterns to include have defaults, patterns to exclude have none. -/
def ofConfig (c : FilesConfig) : Except ConfigFault ExportFilter := do
  let included ← compile ((c.included <|> FilesConfig.default.included).getD [])
  let excluded ← compile (c.excluded.getD [])
  return ⟨included, excluded⟩

/-- Whether a path, as seen from the root, is that of an export. -/
def accepts (f : ExportFilter) (path : String) : Bool :=
  f.included.any (·.accepts path) && !f.excluded.any (·.accepts path)

/-- Whether a path is that of an export below `root`. A path that does not lie below the root is
taken as it is. -/
def acceptsBelow (f : ExportFilter) (root path : String) : Bool :=
  f.accepts ((Path.relativeTo? path root).getD path)

end ExportFilter

end StructTags
