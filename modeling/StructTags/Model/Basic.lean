import StructTags.Text.Offset
import StructTags.Type.Basic

/-!
# The model of a package

What the rules look at: source files with their structs, the fields of a struct with their tags
and types, and structs nested in the types of fields. Spans are byte ranges in the file.
-/

namespace StructTags

/-- The byte range from `start` up to `stop`. -/
structure Span where
  start : Nat := 0
  stop : Nat := 0
deriving DecidableEq, Repr

def Span.length (s : Span) : Nat :=
  s.stop - s.start

/-- A tag as it stands in the source, its quotes included. -/
structure TagLiteral where
  literal : String
  span : Span
deriving DecidableEq, Repr

mutual

/-- A field of a struct. An embedded field has no name. -/
structure Field where
  name : Option String
  type : Option FieldType
  typeSpan : Span
  tag : Option TagLiteral
  /-- The struct types written inside the field's type. -/
  nested : List Struct

/-- A struct type. One without a name is anonymous. -/
structure Struct where
  name : Option String
  span : Span
  fields : List Field

end

structure SourceFile where
  path : String
  /-- The text of the file, if it is known. -/
  source : Option String
  structs : List Struct

/-- Files that belong together. -/
structure Package where
  name : Option String
  files : List SourceFile

/-- The text of the file under a span. -/
def SourceFile.text? (f : SourceFile) (s : Span) : Option String := do
  let source ← f.source
  return String.ofList (← Offset.slice? s.start s.stop source.toList)

/-! ## Visiting

A struct is entered before the structs nested in its fields, and these are entered in the order of
the fields they are nested in. At each struct its own fields are visited, in order. -/

mutual

/-- The structs that are entered from a struct on: itself, and those nested in it. -/
def Struct.entered : Struct → List Struct
  | ⟨name, span, fields⟩ => ⟨name, span, fields⟩ :: enteredNested fields

def enteredNested : List Field → List Struct
  | [] => []
  | ⟨_, _, _, _, nested⟩ :: rest => enteredAll nested ++ enteredNested rest

def enteredAll : List Struct → List Struct
  | [] => []
  | s :: rest => s.entered ++ enteredAll rest

end

/-- The fields of structs, at any depth, in the order they are visited. -/
def visitStructs (structs : List Struct) : List Field :=
  (enteredAll structs).flatMap (·.fields)

/-- The structs of a package in the order they are entered, each with its file. -/
def Package.entered (p : Package) : List (SourceFile × Struct) :=
  p.files.flatMap fun file => (enteredAll file.structs).map (file, ·)

/-- The fields of a package in the order they are visited, each with its file. -/
def Package.visit (p : Package) : List (SourceFile × Field) :=
  p.entered.flatMap fun x => x.2.fields.map (x.1, ·)

mutual

/-- How many structs there are in a struct, itself included. -/
def Struct.count : Struct → Nat
  | ⟨_, _, fields⟩ => 1 + countNested fields

def countNested : List Field → Nat
  | [] => 0
  | ⟨_, _, _, _, nested⟩ :: rest => countStructs nested + countNested rest

def countStructs : List Struct → Nat
  | [] => 0
  | s :: rest => s.count + countStructs rest

end

/-- How many structs a package holds at any depth. -/
def Package.structCount (p : Package) : Nat :=
  (p.files.map fun file => countStructs file.structs).foldr (· + ·) 0

end StructTags
