import StructTags.Rule.Checker
import StructTags.Tag.Value
import StructTags.Unicode.Lowercase

/-!
# The bson dialect

Only three options are known, a name that is the field's name in lower case can go, `inline` needs
a struct, a pointer to one or a map with string keys, and `minsize` a 64-bit integer.
-/

namespace StructTags

namespace BsonRules

def invalidOptions : String := "bson/invalid-options"

def sameTagName : String := "bson/same-tag-name"

def inlineShape : String := "bson/inline-shape"

def minsizeShape : String := "bson/minsize-shape"

def key : String := "bson"

def knownOptions : List String := ["omitempty", "minsize", "inline"]

/-- Whether a type can be inlined. Names are looked through, but not those behind a pointer or of
a map's key. -/
def isInlineable : FieldType → Bool
  | .struct => true
  | .pointer elem => elem.isStruct
  | .map key _ => key = .basic .string
  | .named _ t => isInlineable t
  | _ => false

/-- Whether a type is a 64-bit integer behind names and pointers. -/
def isMinsizeable (t : FieldType) : Bool :=
  match t.basicKind? with
  | some .int64 | some .uint64 | some .uintptr => true
  | _ => false

def checkOptions (site : Site) (value : Tag.Value) : List Diagnostic :=
  if (value.unknownOptions knownOptions).isEmpty then []
  else [site.tagDiagnostic invalidOptions .error "invalid bson options"]

def checkSameName (site : Site) (value : Tag.Value) : List Diagnostic :=
  if site.field.name.map Unicode.toLower = some value.name then
    [site.tagDiagnostic sameTagName .warning "same bson tag name"]
  else []

def checkInline (site : Site) (value : Tag.Value) : List Diagnostic :=
  if value.hasOption "inline" && !site.field.type.any isInlineable then
    [site.tagDiagnostic inlineShape .error
      "inline must be struct, pointer to struct, map[string]*"]
  else []

def checkMinsize (site : Site) (value : Tag.Value) : List Diagnostic :=
  if value.hasOption "minsize" && !site.field.type.any isMinsizeable then
    [site.tagDiagnostic minsizeShape .error "minsize must be int64, uint64, uintptr"]
  else []

def check (site : Site) (text : String) : List Diagnostic :=
  match Tag.Usage.ofText text with
  | .skip => []
  | .use value =>
    checkOptions site value ++ checkSameName site value ++ checkInline site value ++
      checkMinsize site value

def checker : Checker := ⟨key, check⟩

end BsonRules

end StructTags
