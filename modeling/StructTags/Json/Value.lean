import StructTags.Document
import StructTags.Text.Digits

/-!
# JSON values

The values the checker writes. Fields keep the order they are given in, and every number it
writes is a natural one.
-/

namespace StructTags

inductive Json where
  | null
  | bool (b : Bool)
  | nat (n : Nat)
  | str (s : String)
  | arr (items : List Json)
  | obj (fields : List (String × Json))
deriving Repr

namespace Json

/-- The value, or null. -/
def ofOption {α : Type} (encode : α → Json) : Option α → Json
  | none => .null
  | some a => encode a

def ofList {α : Type} (encode : α → Json) (items : List α) : Json :=
  .arr (items.map encode)

def ofStrings (items : List String) : Json :=
  ofList .str items

mutual

/-- The document that a JSON value is. -/
def toDocument : Json → Document
  | .null => .leaf (.ofMeaning .null)
  | .bool b => .leaf (.ofMeaning (.flag b))
  | .nat n => .leaf (.ofMeaning (if n < Digits.word64 then .natural n else .number))
  | .str s => .ofText s
  | .arr items => .list (documentsOf items)
  | .obj fields => .record (entriesOf fields)

def documentsOf : List Json → List Document
  | [] => []
  | j :: rest => j.toDocument :: documentsOf rest

def entriesOf : List (String × Json) → List (Leaf × Document)
  | [] => []
  | (key, j) :: rest => (.ofText key, j.toDocument) :: entriesOf rest

end

end Json

end StructTags
