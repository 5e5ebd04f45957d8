import StructTags.Yaml.Node
import StructTags.Yaml.Schema

/-!
# Reading YAML

A document is made from the tree of nodes by putting what was anchored in the place of its aliases.
-/

namespace StructTags

namespace Yaml

/-- The anchors so far. An anchor is numbered by how many names were known before it, and an alias
stands for the last value with the number of its name. -/
structure Anchors where
  numbers : List (String × Nat) := []
  values : List (Nat × Document) := []

namespace Anchors

/-- Numbers an anchor. Until its value is complete it cannot be read. -/
def declare (a : Anchors) (name : String) : Anchors × Nat :=
  let n := a.numbers.length
  let numbers := (name, n) :: a.numbers.filter (·.1 ≠ name)
  ({ numbers, values := (n, .leaf .unreadable) :: a.values }, n)

def define (a : Anchors) (n : Nat) (d : Document) : Anchors :=
  { a with values := (n, d) :: a.values }

def value? (a : Anchors) (name : String) : Option Document := do
  a.values.lookup (← a.numbers.lookup name)

end Anchors

/-- The document under a tag of its own. Tags of the standard set have no other effect than on what
scalars mean. -/
def underTag (tag? : Option String) (d : Document) : Document :=
  match tag?.map String.toList with
  | some ('!' :: name) => .tagged (String.ofList name) d
  | _ => d

/-- The leaf that a document is as the key of an entry. -/
def keyOf : Document → Leaf
  | .leaf l => l
  | .tagged _ (.leaf l) => { l with kind := .foreign }
  | _ => .unreadable

/-- Numbers the anchor in front of a node, if there is one. -/
def declare? (a : Anchors) (anchor? : Option String) : Anchors × Option Nat :=
  match anchor? with
  | none => (a, none)
  | some name =>
    let (a, n) := a.declare name
    (a, some n)

/-- Completes a node. -/
def complete (a : Anchors) (number? : Option Nat) (d : Document) : Document × Anchors :=
  match number? with
  | none => (d, a)
  | some n => (d, a.define n d)

mutual

def Node.toDocument? (a : Anchors) : Node → Option (Document × Anchors)
  | .alias name => (a.value? name).map fun d => (d, a)
  | .scalar anchor? tag? style text =>
    let (a, n) := declare? a anchor?
    some (complete a n (underTag tag? (.leaf (Schema.leaf tag? style text))))
  | .sequence anchor? tag? items => do
    let (a, n) := declare? a anchor?
    let (items, a) ← listOf? a items
    return complete a n (underTag tag? (.list items))
  | .mapping anchor? tag? entries => do
    let (a, n) := declare? a anchor?
    let (entries, a) ← entriesOf? a entries
    return complete a n (underTag tag? (.record entries))

def listOf? (a : Anchors) : List Node → Option (List Document × Anchors)
  | [] => some ([], a)
  | node :: rest => do
    let (d, a) ← node.toDocument? a
    let (ds, a) ← listOf? a rest
    return (d :: ds, a)

def entriesOf? (a : Anchors) : List (Node × Node) → Option (List (Leaf × Document) × Anchors)
  | [] => some ([], a)
  | (key, value) :: rest => do
    let (k, a) ← key.toDocument? a
    let (v, a) ← value.toDocument? a
    let (entries, a) ← entriesOf? a rest
    return ((keyOf k, v) :: entries, a)

end

/-- How deep a YAML text may be nested where it is looked at. -/
def maxDepth : Nat := 128

/-- Reads a YAML text of one document. An empty text is an empty record. -/
def read? (text : List Char) : Option Document := do
  match ← Node.ofTokens? (← tokens? text) with
  | none => return .record []
  | some node => return (← node.toDocument? {}).1

end Yaml

end StructTags
