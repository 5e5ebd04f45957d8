import StructTags.File.Access
import StructTags.Json.Reader
import StructTags.Model.Json
import StructTags.Yaml.Reader

/-!
# Loading exports
-/

namespace StructTags

namespace Package

/-- Reads an export in the format of the file it comes from. -/
def parse (path text : String) : Except ModelFault Package :=
  let decoded (package? : Option Package) : Except ModelFault Package :=
    match package? with
    | some package => .ok package
    | none => .error .malformed
  match Path.extension? path with
  | some "yaml" | some "yml" =>
    decoded (Yaml.read? text.toList >>= ofDocument? .yaml Yaml.maxDepth)
  | some "json" => decoded (Json.read? text.toList >>= ofDocument? .json Json.maxDepth)
  | _ => .error .unsupported

/-- Loads an export. -/
def load {m : Type → Type} [Monad m] [FileAccess m] (path : String) : m (Except Error Package) := do
  match ← FileAccess.readText path with
  | .error fault => return .error (.io path fault)
  | .ok text =>
    match parse path text with
    | .error fault => return .error (.model path fault)
    | .ok package => return .ok package

/-- The package with its relative paths seen from where its export is seen from. -/
def relocate (p : Package) (exportPath : String) : Package :=
  match (Path.parent? exportPath).filter (!·.isEmpty) with
  | none => p
  | some directory =>
    { p with files := p.files.map fun file => { file with path := Path.join directory file.path } }

end Package

end StructTags
