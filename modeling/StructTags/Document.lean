/-!
# Documents

A configuration or a model export is read from JSON, YAML or TOML. Each of these formats is read
into a `Document`, and everything the checker knows is decoded from there, so that the decoders
do not depend on the format.

A leaf keeps apart what it says as text and what it means, since a format may let one leaf serve
as both: the plain YAML scalar `12` is a text where a text is wanted and a number where a number
is. A `Reading` holds the remaining differences between the formats.
-/

namespace StructTags

/-- What a leaf stands for. Numbers other than unsigned 64-bit integers carry no value: nothing
the checker reads is negative or fractional. `foreign` marks a leaf without any meaning, such as
a string with half of a surrogate pair. -/
inductive Meaning where
  | null
  | flag (b : Bool)
  | natural (n : Nat)
  | number
  | text
  | foreign
deriving DecidableEq, Repr

/-- A value without parts. `value` is what it means where a flag, a number or nothing is wanted,
and `kind` what it is when nothing in particular is wanted; the two differ only for leaves with
an explicit type. -/
structure Leaf where
  text? : Option String
  value : Meaning
  kind : Meaning
deriving DecidableEq, Repr

namespace Leaf

def ofText (s : String) : Leaf := ⟨some s, .text, .text⟩

/-- A leaf that cannot serve as a text. -/
def ofMeaning (m : Meaning) : Leaf := ⟨none, m, m⟩

/-- A leaf that cannot be decoded as anything. It may still stand where it is not looked at. -/
def unreadable : Leaf := ⟨none, .foreign, .foreign⟩

/-- Nothing at all, as after the colon of an unfinished YAML entry. -/
def isEmpty (l : Leaf) : Bool :=
  l.text? = some "" && l.value = .null

end Leaf

/-- The tree a document is read into. `tagged` is a value that was given a type by name. -/
inductive Document where
  | leaf (l : Leaf)
  | list (items : List Document)
  | record (entries : List (Leaf × Document))
  | tagged (tag : String) (inner : Document)
deriving Repr

namespace Document

def ofText (s : String) : Document := .leaf (.ofText s)

mutual

/-- How deep lists and records are nested. -/
def depth : Document → Nat
  | .leaf _ => 0
  | .list items => depthOfList items + 1
  | .record entries => depthOfEntries entries + 1
  | .tagged _ inner => depth inner

def depthOfList : List Document → Nat
  | [] => 0
  | d :: rest => max (depth d) (depthOfList rest)

def depthOfEntries : List (Leaf × Document) → Nat
  | [] => 0
  | (_, d) :: rest => max (depth d) (depthOfEntries rest)

end

/-! ## Views

Each view answers one question of a decoder, and `none` means that the document does not say
that. -/

def text? : Document → Option String
  | .leaf l => l.text?
  | .tagged _ inner => inner.text?
  | _ => none

def natural? : Document → Option Nat
  | .leaf l => match l.value with
    | .natural n => some n
    | _ => none
  | .tagged _ inner => inner.natural?
  | _ => none

def flag? : Document → Option Bool
  | .leaf l => match l.value with
    | .flag b => some b
    | _ => none
  | .tagged _ inner => inner.flag?
  | _ => none

def isNull : Document → Bool
  | .leaf l => l.kind = .null
  | _ => false

def items? : Document → Option (List Document)
  | .list items => some items
  | .leaf l => if l.isEmpty then some [] else none
  | .tagged _ inner => inner.items?
  | _ => none

def entries? : Document → Option (List (Leaf × Document))
  | .record entries => some entries
  | .leaf l => if l.isEmpty then some [] else none
  | .tagged _ inner => inner.entries?
  | _ => none

/-- The entries of a record all of whose keys are texts. -/
def namedEntries? (d : Document) : Option (List (String × Document)) := do
  (← d.entries?).mapM fun (key, value) => do return (← key.text?, value)

/-- The value of an entry that may be missing but not stand twice. -/
def lookup? (name : String) (entries : List (String × Document)) : Option (Option Document) :=
  match entries.filter (·.1 = name) with
  | [] => some none
  | [(_, value)] => some (some value)
  | _ => none

/-- Whether the document, nested at most `n` deep, can be read without knowing what is wanted of
it. -/
def isPlain : Nat → Document → Bool
  | _, .leaf l => l.kind ≠ .foreign
  | 0, _ => false
  | _ + 1, .tagged _ _ => false
  | n + 1, .list items => items.all (isPlain n)
  | n + 1, .record entries => entries.all fun (key, value) => key.kind ≠ .foreign && isPlain n value

end Document

/-! ## Readings -/

/-- How a format lets records and choices be written. -/
structure Reading where
  /-- A list may stand for a record, its items for the fields in order. -/
  positional : Bool
  /-- A record `{name: value}` may stand for the choice `name` if `value` is such a document. -/
  choiceMark : Document → Bool
  /-- A tag may stand for a choice. -/
  choiceTag : Bool

namespace Reading

def json : Reading where
  positional := true
  choiceMark := Document.isNull
  choiceTag := false

def yaml : Reading where
  positional := false
  choiceMark := fun _ => false
  choiceTag := true

def toml : Reading where
  positional := true
  choiceMark
    | .record entries => entries.isEmpty
    | .list items => items.isEmpty
    | _ => false
  choiceTag := false

end Reading

namespace Document

/-- The values of a record's fields in the order of `names`, `none` for a missing one. Entries
under other names are passed over. Where a list stands for the record its items belong to the
first fields. -/
def fields? (r : Reading) (names : List String) (d : Document) : Option (List (Option Document)) :=
  match d with
  | .list items =>
    if r.positional && items.length ≤ names.length then
      some (items.map some ++ List.replicate (names.length - items.length) none)
    else none
  | _ => do
    let entries ← d.namedEntries?
    names.mapM (lookup? · entries)

/-- The values of a record's fields, where a list may stand for the record only if it has an item
for every field. -/
def allFields? (r : Reading) (names : List String) (d : Document) : Option (List (Option Document)) :=
  match d with
  | .list items => if items.length = names.length then d.fields? r names else none
  | _ => d.fields? r names

/-- The name of a choice without further data. -/
def choice? (r : Reading) (d : Document) : Option String :=
  match d with
  | .record [(key, value)] => if r.choiceMark value then key.text? else none
  | .tagged tag (.leaf l) => if r.choiceTag && l.value = .null then some tag else none
  | .leaf l => l.text?
  | _ => none

/-- Decodes a list, itself nested at most `n` deep, whose items `decode` decodes at the depth that
is left. -/
def listOf? {α : Type} (n : Nat) (decode : Nat → Document → Option α) (d : Document) :
    Option (List α) :=
  match n with
  | 0 => none
  | n + 1 => do (← d.items?).mapM (decode n)

/-- Decodes a value that may be null. -/
def optional {α : Type} (decode : Document → Option α) (d : Document) : Option (Option α) :=
  if d.isNull then some none else (decode d).map some

/-- Decodes a field that may be missing or null. -/
def optionalField {α : Type} (decode : Document → Option α) : Option Document → Option (Option α)
  | none => some none
  | some d => optional decode d

/-- Decodes a field that has a default for when it is missing. -/
def fieldOr {α : Type} (default : α) (decode : Document → Option α) : Option Document → Option α
  | none => some default
  | some d => decode d

end Document

end StructTags
