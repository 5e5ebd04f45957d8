import StructTags.Config.Json
import StructTags.File.Access
import StructTags.Json.Reader
import StructTags.Toml.Reader
import StructTags.Yaml.Reader

/-!
# Loading configurations

The format of a configuration goes by the extension of its file. A configuration that is not asked
for by its path is looked for in a directory and those above it.
-/

namespace StructTags

namespace Config

/-- Reads a configuration in the format of the file it comes from. -/
def parse (path text : String) : Except ConfigFault Config :=
  let decoded (config? : Option Config) : Except ConfigFault Config :=
    match config? with
    | some config => .ok config
    | none => .error (.malformed path)
  match Path.extension? path with
  | some "yaml" | some "yml" =>
    decoded (Yaml.read? text.toList >>= ofDocument? .yaml Yaml.maxDepth)
  | some "json" => decoded (Json.read? text.toList >>= ofDocument? .json Json.maxDepth)
  | some "toml" => decoded (Toml.read? text.toList >>= fun d => ofDocument? .toml d.depth d)
  | _ => .error (.unsupported path)

/-- The names of configurations, those first that take precedence. -/
def fileNames : List String :=
  [".taglintrc.json", ".taglintrc.toml", "taglint.yaml", "taglint.yml", "taglint.json"]

variable {m : Type → Type} [Monad m] [FileAccess m]

/-- Loads a configuration. -/
def load (path : String) : m (Except Error Config) := do
  match ← FileAccess.readText path with
  | .error fault => return .error (.io path fault)
  | .ok text =>
    match parse path text with
    | .error fault => return .error (.config fault)
    | .ok config => return .ok config

/-- The first path that is a file. -/
def firstFile? : List String → m (Option String)
  | [] => return none
  | path :: rest => do
    if ← FileAccess.isFile path then return some path else firstFile? rest

/-- The configuration in effect in a directory: the first one found in the directory or in one
above it. -/
def discover (start : String) : m (Except Error (Option String)) := do
  match ← FileAccess.resolve start with
  | .error fault => return .error (.config (.invalidStart fault))
  | .ok start =>
    let candidates := (Path.ancestors start).flatMap fun directory =>
      fileNames.map (Path.join directory)
    return .ok (← firstFile? candidates)

/-- Loads a configuration that was asked for or found. -/
def loadChosen (path : String) : m (Except Error Config) := do
  match ← load path with
  | .error e => return .error (.unloadableConfig path e)
  | .ok config => return .ok config

/-- Loads the configuration at a path, or the one in effect in a directory, or else the default. -/
def loadFor (explicit? : Option String) (start : String) : m (Except Error Config) := do
  match explicit? with
  | some path =>
    if (← FileAccess.kind? path).isNone then return .error (.config (.missing path))
    else loadChosen path
  | none =>
    match ← discover start with
    | .error e => return .error e
    | .ok (some path) => loadChosen path
    | .ok none => return .ok {}

end Config

end StructTags
