import StructTags.File.Access
import StructTags.Path.Basic

/-!
# File trees

A file system in memory: directories with named entries, and a working directory. A path is
followed name by name; a single dot stays, two dots go up, and anything before a slash must be a
directory.
-/

namespace StructTags

namespace File

inductive Node where
  | file (bytes : List Utf8.Byte)
  | directory (entries : List (String × Node))
deriving Repr

namespace Node

def kind : Node → FileKind
  | .file _ => .file
  | .directory _ => .directory

/-- The node under a list of names. -/
def at? : List String → Node → Option Node
  | [], node => some node
  | name :: names, .directory entries => (entries.lookup name).bind (at? names)
  | _ :: _, .file _ => none

/-- Changes the first entry with the given name. -/
def modifyEntry (name : String) (f : Node → Node) : List (String × Node) → List (String × Node)
  | [] => []
  | (n, node) :: rest =>
    if n = name then (n, f node) :: rest else (n, node) :: modifyEntry name f rest

/-- Changes the node under a list of names. -/
def modify (f : Node → Node) : List String → Node → Node
  | [], node => f node
  | name :: names, .directory entries => .directory (modifyEntry name (modify f names) entries)
  | _ :: _, .file bytes => .file bytes

/-- Adds a node under a list of names, and the directories on the way that are missing. -/
def insert (new : Node) : List String → Node → Node
  | [], _ => new
  | name :: names, node =>
    let entries := match node with
      | .directory entries => entries
      | .file _ => []
    let old := (entries.lookup name).getD (.directory [])
    .directory (entries.filter (·.1 ≠ name) ++ [(name, insert new names old)])

end Node

structure Tree where
  root : Node
  /-- The names that lead to the working directory. -/
  current : List String
deriving Repr

namespace Tree

/-- Follows the pieces of a path from a place that exists. -/
def follow (root : Node) : (place : List String) → List String → Except IoFault (List String)
  | place, [] => .ok place
  | place, piece :: pieces =>
    match root.at? place with
    | some (.directory entries) =>
      if piece = "" || piece = "." then follow root place pieces
      else if piece = ".." then follow root place.dropLast pieces
      else if (entries.lookup piece).isSome then follow root (place ++ [piece]) pieces
      else .error .notFound
    | some (.file _) => .error .notDirectory
    | none => .error .notFound

/-- The names that lead to what stands at a path. -/
def place (t : Tree) (path : String) : Except IoFault (List String) :=
  if path.isEmpty then .error .notFound
  else
    let start := if Path.isAbsolute path then [] else t.current
    follow t.root start ((Path.pieces path.toList).map String.ofList)

def node (t : Tree) (path : String) : Except IoFault Node := do
  match t.root.at? (← t.place path) with
  | some node => .ok node
  | none => .error .notFound

def kind? (t : Tree) (path : String) : Option FileKind :=
  match t.node path with
  | .ok node => some node.kind
  | .error _ => none

def read (t : Tree) (path : String) : Except IoFault (List Utf8.Byte) := do
  match ← t.node path with
  | .file bytes => .ok bytes
  | .directory _ => .error .isDirectory

def write (t : Tree) (path text : String) : Except IoFault Tree := do
  match ← t.node path with
  | .directory _ => .error .isDirectory
  | .file _ =>
    let new := Node.file (Utf8.encode text.toList)
    return { t with root := t.root.modify (fun _ => new) (← t.place path) }

def entries (t : Tree) (path : String) : List (String × FileKind) :=
  match t.node path with
  | .ok (.directory entries) => entries.map fun (name, node) => (name, node.kind)
  | _ => []

def resolve (t : Tree) (path : String) : Except IoFault String := do
  return "/" ++ "/".intercalate (← t.place path)

end Tree

instance : FileAccess (StateM Tree) where
  kind? path := do return (← get).kind? path
  read path := do return (← get).read path
  write path text := do
    match (← get).write path text with
    | .ok t => set t; return .ok ()
    | .error fault => return .error fault
  entries path := do return (← get).entries path
  resolve path := do return (← get).resolve path

end File

end StructTags
