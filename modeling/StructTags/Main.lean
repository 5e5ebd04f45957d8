import StructTags.Command.Run

/-!
# The command line program

Commands run on the files of the machine.
-/

namespace StructTags

namespace Disk

def kind? (path : String) : IO (Option FileKind) := do
  if path.isEmpty then return none
  try
    match (← (← IO.FS.realPath path).metadata).type with
    | .file => return some .file
    | .dir => return some .directory
    | _ => return none
  catch _ => return none

/-- Why the file system refused to read or write at a path. -/
def faultOf (path : String) (e : IO.Error) : IO IoFault := do
  if (← kind? path) = some .directory then return .isDirectory
  else match e with
    | .noFileOrDirectory .. => return .notFound
    | .inappropriateType .. => return .notDirectory
    | e => return .other (toString e)

def read (path : String) : IO (Except IoFault (List Utf8.Byte)) := do
  try return .ok (← IO.FS.readBinFile path).toList
  catch e => return .error (← faultOf path e)

def write (path text : String) : IO (Except IoFault Unit) := do
  try return .ok (← IO.FS.writeFile path text)
  catch e => return .error (← faultOf path e)

def entries (path : String) : IO (List (String × FileKind)) := do
  try
    let entries ← (← IO.FS.realPath path).readDir
    let kinds ← entries.mapM fun entry => do
      match (← entry.path.symlinkMetadata).type with
      | .file => return some (entry.fileName, FileKind.file)
      | .dir => return some (entry.fileName, FileKind.directory)
      | _ => return none
    return kinds.toList.filterMap id
  catch _ => return []

def resolve (path : String) : IO (Except IoFault String) := do
  try
    let resolved ← IO.FS.realPath path
    discard resolved.metadata
    return .ok resolved.toString
  catch e => return .error (← faultOf path e)

instance : FileAccess IO where
  kind? := kind?
  read := read
  write := write
  entries := entries
  resolve := resolve

end Disk

end StructTags

open StructTags in
def main (args : List String) : IO UInt32 := do
  let output ← IO.getStdout
  let terminal : Command.Terminal :=
    { isTerminal := ← output.isTty, plain := (← IO.getEnv "NO_COLOR").isSome }
  let outcome ← (Command.run terminal args : IO Command.Outcome)
  output.putStr outcome.out
  IO.eprint outcome.err
  if Command.parse args matches .error .usage then IO.eprint Command.usageText
  return UInt32.ofNat outcome.code
