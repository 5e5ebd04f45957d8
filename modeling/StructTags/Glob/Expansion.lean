import StructTags.File.Access
import StructTags.Glob.Pattern
import StructTags.Path.Basic

/-!
# Files that match a pattern

A pattern is matched against the file system piece by piece. A piece without wildcards names one
entry, which need not be looked for; any other piece is matched against the entries of a
directory in the order of their names. Two stars stand for any number of directories.
-/

namespace StructTags

namespace Glob

variable {m : Type → Type} [Monad m] [FileAccess m]

def Token.char? : Token → Option Char
  | .char c => some c
  | _ => none

/-- The text of a pattern without wildcards. -/
def Pattern.literal? (p : Pattern) : Option String :=
  (p.mapM Token.char?).map String.ofList

def Pattern.isRecursive (p : Pattern) : Bool :=
  p.contains .anyRecursive

/-- The entry of a directory. Names in the working directory are not led by it. -/
def entryPath (directory name : String) : String :=
  if Path.same directory "." then name else Path.join directory name

/-- The directories `.` and `..` that a piece matches. They are only matched by a piece that starts
with a dot. -/
def specialNames (p : Pattern) : List String :=
  if p.head? = some (.char '.') then ["..", "."].filter (isMatch p ·.toList) else []

/-- The files below a path that the pieces of a pattern match, the first piece being matched by
what stands in the directory at the path. `fuel` bounds the number of steps from directory to
directory and from piece to piece. -/
def filesFrom : (fuel : Nat) → List Pattern → (path : String) → FileKind → m (List String)
  | 0, _, _, _ => return []
  | _, [], _, _ => return []
  | fuel + 1, p :: rest, path, kind => do
    -- What an entry contributes that the piece before `rest` matches.
    let proceed (rest : List Pattern) (path : String) (kind : FileKind) : m (List String) :=
      match rest, kind with
      | [], .file => return [path]
      | [], .directory => return []
      | rest, kind => filesFrom fuel rest path kind
    match p.literal? with
    | some name =>
      let isSpecial := name = "." || name = ".."
      let next := entryPath path name
      match ← FileAccess.kind? next with
      | some nextKind =>
        if isSpecial && kind ≠ .directory then return [] else proceed rest next nextKind
      | none => return []
    | none =>
      if kind ≠ .directory then return []
      let special ← (specialNames p).mapM fun name => proceed rest (Path.join path name) .directory
      let entries := (← FileAccess.entries path).mergeSort fun a b =>
        Path.compareNames a.1.toList b.1.toList ≠ .gt
      let found ← entries.mapM fun (name, kind) => do
        let next := entryPath path name
        if p.isRecursive then
          let rest := rest.dropWhile (·.isRecursive)
          let here ← match rest with
            | [] => pure []
            | q :: rest => if isMatch q name.toList then proceed rest next kind else pure []
          let below ← if kind = .directory then filesFrom fuel (p :: rest) next kind else pure []
          return here ++ below
        else if isMatch p name.toList then proceed rest next kind
        else return []
      return special.flatten ++ found.flatten

/-- The pieces of a text between slashes, without the empty one behind a slash at the end. -/
def pieces (pattern : List Char) : List (List Char) :=
  let all := Path.pieces pattern
  if all.getLast? = some [] then all.dropLast else all

/-- The files that a pattern matches. One that ends in a slash is for directories only. -/
def files (pattern : String) : m (Except Fault (List String)) := do
  match parse pattern with
  | .error fault => return .error fault
  | .ok _ =>
    let absolute := Path.isAbsolute pattern
    let body := if absolute then pattern.toList.tail else pattern.toList
    match (pieces body).mapM (parse ∘ String.ofList) with
    | .error fault => return .error fault
    | .ok parts =>
      if pattern.toList.getLast? = some '/' then return .ok []
      else
        let start := if absolute then "/" else "."
        return .ok (← filesFrom (FileAccess.maxDepth + parts.length) parts start .directory)

end Glob

end StructTags
