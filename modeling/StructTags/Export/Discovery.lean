import StructTags.Export.Filter
import StructTags.File.Access

/-!
# Finding exports
-/

namespace StructTags

namespace ExportFilter

variable {m : Type → Type} [Monad m] [FileAccess m]

/-- The exports below a root, sorted by path. -/
def discover (f : ExportFilter) (root : String) : m (List String) := do
  match ← FileAccess.kind? root with
  | none => return []
  | some kind =>
    let files ← FileAccess.filesBelow FileAccess.maxDepth kind root
    let exports := files.filter (f.acceptsBelow root)
    return exports.mergeSort fun a b => Path.compare a b ≠ .gt

end ExportFilter

end StructTags
