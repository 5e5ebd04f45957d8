import StructTags.Error
import StructTags.Path.Basic
import StructTags.Text.Utf8

/-!
# Access to files

What the checker needs of a file system. Everything that reads or writes files is written against
this interface, so that it runs on the files of a machine as well as on a tree in memory.
-/

namespace StructTags

inductive FileKind where
  | file
  | directory
deriving DecidableEq, Repr

class FileAccess (m : Type → Type) where
  /-- What stands at a path, if anything does. -/
  kind? : (path : String) → m (Option FileKind)
  /-- The bytes of a file. -/
  read : (path : String) → m (Except IoFault (List Utf8.Byte))
  /-- Gives a file that exists a new text. -/
  write : (path text : String) → m (Except IoFault Unit)
  /-- The names in a directory with what they stand for; none if it cannot be read. -/
  entries : (path : String) → m (List (String × FileKind))
  /-- The absolute path of something that exists, without dots. -/
  resolve : (path : String) → m (Except IoFault String)

namespace FileAccess

variable {m : Type → Type} [Monad m] [FileAccess m]

def isFile (path : String) : m Bool := do
  return (← kind? path) = some .file

def isDirectory (path : String) : m Bool := do
  return (← kind? path) = some .directory

/-- The text of a file. -/
def readText (path : String) : m (Except IoFault String) := do
  match ← read path with
  | .error fault => return .error fault
  | .ok bytes =>
    match Utf8.decode? bytes with
    | some text => return .ok (String.ofList text)
    | none => return .error .invalidText

/-- How deep directories can be nested: a path has at most this many bytes. -/
def maxDepth : Nat := 4096

/-- The files below a path, which may be a file itself. -/
def filesBelow : (depth : Nat) → (kind : FileKind) → (path : String) → m (List String)
  | _, .file, path => return [path]
  | 0, .directory, _ => return []
  | depth + 1, .directory, path => do
    let files ← (← entries path).mapM fun (name, kind) =>
      filesBelow depth kind (Path.join path name)
    return files.flatten

end FileAccess

end StructTags
