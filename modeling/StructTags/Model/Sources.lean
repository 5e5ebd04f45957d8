import StructTags.Model.Basic
import StructTags.Path.Basic

/-!
# The texts of files
-/

namespace StructTags

/-- The texts of files by path. Of two texts for one path the later one counts. -/
abbrev Sources := List (String × String)

namespace Sources

def text? (s : Sources) (path : String) : Option String :=
  (s.reverse.find? fun entry => Path.same entry.1 path).map (·.2)

end Sources

/-- The texts that a package holds, in the order of its files. -/
def Package.sources (p : Package) : Sources :=
  p.files.filterMap fun file => file.source.map fun source => (file.path, source)

end StructTags
