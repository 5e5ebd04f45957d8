import StructTags.Json.Value
import StructTags.Type.Basic

/-!
# Field types as documents

A type is a record whose entry `kind` says which of its forms it has, followed by what belongs to
that form; or a list that starts with the kind. The entry may stand anywhere in the record, so a
type is read only once all of it has been seen, and each part is then taken for what it is by
itself: inside a type the plain YAML scalar `12` is a number and not a text.
-/

namespace StructTags

namespace FieldType

/-- The forms of a type, in the order in which a number may stand for them. -/
inductive Form where
  | basic
  | pointer
  | named
  | struct
  | interface
  | map
  | slice
  | array
  | other
deriving DecidableEq, Repr

namespace Form

def all : List Form :=
  [.basic, .pointer, .named, .struct, .interface, .map, .slice, .array, .other]

def name : Form → String
  | .basic => "basic"
  | .pointer => "pointer"
  | .named => "named"
  | .struct => "struct"
  | .interface => "interface"
  | .map => "map"
  | .slice => "slice"
  | .array => "array"
  | .other => "other"

def ofName? (s : String) : Option Form :=
  all.find? (·.name = s)

/-- The names of what belongs to a form. -/
def fields : Form → List String
  | .basic => ["basic"]
  | .pointer => ["elem"]
  | .named => ["name", "underlying"]
  | .struct | .interface => []
  | .map => ["key", "value"]
  | .slice => ["elem"]
  | .array => ["len", "elem"]
  | .other => ["repr"]

end Form

/-! ## Writing -/

def toJson : FieldType → Json
  | .basic kind => .obj [("kind", .str "basic"), ("basic", .str kind.name)]
  | .pointer elem => .obj [("kind", .str "pointer"), ("elem", elem.toJson)]
  | .named name underlying =>
    .obj [("kind", .str "named"), ("name", .str name), ("underlying", underlying.toJson)]
  | .struct => .obj [("kind", .str "struct")]
  | .interface => .obj [("kind", .str "interface")]
  | .map key value => .obj [("kind", .str "map"), ("key", key.toJson), ("value", value.toJson)]
  | .slice elem => .obj [("kind", .str "slice"), ("elem", elem.toJson)]
  | .array length elem =>
    .obj [("kind", .str "array"), ("len", .nat length), ("elem", elem.toJson)]
  | .other text => .obj [("kind", .str "other"), ("repr", .str text)]

/-! ## Reading -/

/-- The text that a document is by itself. -/
def plainText? : Document → Option String
  | .leaf l => if l.kind = .text then l.text? else none
  | _ => none

/-- The number that a document is by itself. -/
def plainNatural? : Document → Option Nat
  | .leaf l => match l.kind with
    | .natural n => some n
    | _ => none
  | _ => none

/-- Which of `names` a leaf stands for: by its text, or by its number counted from zero. The result
counts the same way; `none` inside means that the leaf stands for none of them. -/
def plainIndex? (names : List String) (l : Leaf) : Option (Option Nat) :=
  match l.kind with
  | .text => l.text?.map fun s => names.findIdx? (· = s)
  | .natural n => some (if n < names.length then some n else none)
  | _ => none

/-- Whether a document may stand behind the name of a choice that holds no data. -/
def isMark : Document → Bool
  | .leaf l => l.kind = .null
  | .record entries => entries.isEmpty
  | _ => false

/-- The predeclared type that a document names. -/
def plainKind? : Document → Option BasicKind
  | .leaf l => if l.kind = .text then l.text?.bind BasicKind.ofName? else none
  | .record [(key, mark)] =>
    if isMark mark then do
      BasicKind.all[← (← plainIndex? (BasicKind.all.map BasicKind.name) key)]?
    else none
  | _ => none

/-- The form that a document names where the type as a whole is read. -/
def outerForm? (d : Document) : Option Form :=
  d.text?.bind Form.ofName?

/-- The form that a document names inside a type. -/
def innerForm? : Document → Option Form
  | .leaf l => do Form.all[← (← plainIndex? (Form.all.map Form.name) l)]?
  | _ => none

/-- Whether an entry of a record names the form of a type. -/
def isKind (entry : Leaf × Document) : Bool :=
  entry.1.kind = .text && entry.1.text? = some "kind"

/-- Cuts a type into its form and the documents of what belongs to that form, in order. -/
def parts? (form? : Document → Option Form) : Document → Option (Form × List Document)
  | .list [] => none
  | .list (first :: rest) => do
    let form ← form? first
    if rest.length = form.fields.length then some (form, rest) else none
  | .record entries => do
    let form ← match entries.filter isKind with
      | [(_, d)] => form? d
      | _ => none
    if form.fields.isEmpty then some (form, [])
    else do
      let indexed ← (entries.filter (!isKind ·)).mapM fun (key, d) => do
        return (← plainIndex? form.fields key, d)
      let parts ← (List.range form.fields.length).mapM fun i =>
        match indexed.filter (·.1 = some i) with
        | [(_, d)] => some d
        | _ => none
      return (form, parts)
  | _ => none

/-- Reads a type nested at most `n` deep whose form `form?` reads. -/
def ofParts? (form? : Document → Option Form) : Nat → Document → Option FieldType
  | 0, _ => none
  | n + 1, d => do
    match ← parts? form? d with
    | (.basic, [kind]) => return .basic (← plainKind? kind)
    | (.pointer, [elem]) => return .pointer (← ofParts? innerForm? n elem)
    | (.named, [name, t]) => return .named (← plainText? name) (← ofParts? innerForm? n t)
    | (.struct, []) => return .struct
    | (.interface, []) => return .interface
    | (.map, [key, value]) =>
      return .map (← ofParts? innerForm? n key) (← ofParts? innerForm? n value)
    | (.slice, [elem]) => return .slice (← ofParts? innerForm? n elem)
    | (.array, [length, elem]) =>
      return .array (← plainNatural? length) (← ofParts? innerForm? n elem)
    | (.other, [text]) => return .other (← plainText? text)
    | _ => none

/-- Whether all that belongs to a type, nested at most `n` deep, can be read before its form is
known. -/
def partsArePlain (n : Nat) : Document → Bool
  | .list items => items.tail.all (Document.isPlain n)
  | .record entries =>
    entries.all fun (key, part) => isKind (key, part) || (key.kind ≠ .foreign && part.isPlain n)
  | _ => false

/-- Reads a type from a document nested at most `n` deep. -/
def ofDocument? : Nat → Document → Option FieldType
  | 0, _ => none
  | n + 1, d => if partsArePlain n d then ofParts? outerForm? (n + 1) d else none

end FieldType

end StructTags
