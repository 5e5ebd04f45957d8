import StructTags.Text.Offset

/-!
# Lines and columns

Lines and columns are counted from one, lines by the newlines before a position and columns by
characters. An offset that is no character boundary has no characters to count, so its column
counts bytes.
-/

namespace StructTags

structure Position where
  line : Nat
  column : Nat
deriving DecidableEq, Repr

/-- The offsets at which the lines of a text start. -/
structure LineIndex where
  starts : List Nat
deriving DecidableEq, Repr

namespace LineIndex

/-- The offsets behind the newlines of a text that itself starts at `offset`. -/
def startsFrom (offset : Nat) : List Char → List Nat
  | [] => []
  | c :: rest =>
    let next := offset + c.utf8Size
    if c = '\n' then next :: startsFrom next rest else startsFrom next rest

def ofSource (source : String) : LineIndex :=
  ⟨0 :: startsFrom 0 source.toList⟩

/-- What comes of looking for a number in an ascending list. -/
inductive Search where
  /-- The number stands at index `i`. -/
  | found (i : Nat)
  /-- The number is missing, and `i` is the index at which it would have to be inserted. -/
  | missing (i : Nat)
deriving DecidableEq, Repr

def search (numbers : List Nat) (n : Nat) : Search :=
  let i := numbers.findIdx (n ≤ ·)
  if numbers[i]? = some n then .found i else .missing i

/-- The number of the line that `offset` lies on, and where that line starts. An offset at which no
line starts lies on the line in front of its place among the starts. -/
def lineAt (index : LineIndex) (offset : Nat) : Nat × Nat :=
  let i := match search index.starts offset with
    | .found i => i
    | .missing i => i - 1
  (i + 1, index.starts[i]?.getD 0)

/-- The position of an offset in the source that the index was made from. An offset behind the
end stands for the end. -/
def position (index : LineIndex) (source : String) (offset : Nat) : Position :=
  let (line, start) := index.lineAt offset
  let stop := max (min offset source.utf8ByteSize) start
  let before := match Offset.slice? start stop source.toList with
    | some text => text.length
    | none => stop - start
  ⟨line, before + 1⟩

end LineIndex

end StructTags
