/-!
# Tag values

The value under a key is a name followed by options, all of them separated by commas. A value of
exactly `-` asks that the field be left out.
-/

namespace StructTags

namespace Tag

/-- The part of a text before its first comma, and the parts after each comma. -/
def segments : List Char → List Char × List (List Char)
  | [] => ([], [])
  | c :: rest =>
    let (head, tail) := segments rest
    if c = ',' then ([], head :: tail) else (c :: head, tail)

/-- The inverse of `segments`. -/
def joinSegments (head : List Char) : List (List Char) → List Char
  | [] => head
  | s :: rest => head ++ ',' :: joinSegments s rest

@[simp] theorem joinSegments_cons (c : Char) (head : List Char) (tail : List (List Char)) :
    joinSegments (c :: head) tail = c :: joinSegments head tail := by
  cases tail <;> rfl

theorem joinSegments_segments (cs : List Char) :
    joinSegments (segments cs).1 (segments cs).2 = cs := by
  induction cs with
  | nil => rfl
  | cons c rest ih =>
    by_cases hc : c = ','
    · simp [segments, hc, joinSegments, ih]
    · simp [segments, hc, ih]

/-- A name, which may be empty, and options in the order they are written. -/
structure Value where
  name : String := ""
  options : List String := []
deriving DecidableEq, Repr

namespace Value

def ofText (text : String) : Value :=
  let (head, tail) := segments text.toList
  ⟨String.ofList head, tail.map String.ofList⟩

def text (v : Value) : String :=
  String.ofList (joinSegments v.name.toList (v.options.map String.toList))

def hasOption (v : Value) (option : String) : Bool :=
  v.options.contains option

/-- The options that are none of the known ones, repeats included. -/
def unknownOptions (v : Value) (known : List String) : List String :=
  v.options.filter fun o => !known.contains o

end Value

/-- What a tag says about its field. -/
inductive Usage where
  | skip
  | use (value : Value)
deriving DecidableEq, Repr

namespace Usage

def ofText (text : String) : Usage :=
  if text = "-" then .skip else .use (.ofText text)

/-- The name and options, none of either for a field that is left out. -/
def value : Usage → Value
  | .skip => {}
  | .use v => v

end Usage

end Tag

end StructTags
