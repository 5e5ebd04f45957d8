import StructTags.Rule.Checker
import StructTags.Tag.Set

/-!
# The binding dialect

A field marked `exists` must be able to be absent, so its type has to be a pointer or an
interface.
-/

namespace StructTags

namespace BindingRules

def existsNonPointer : String := "binding/exists-non-pointer"

def key : String := "binding"

/-- Whether a type is a pointer or an interface behind names. -/
def isPointerOrInterface (t : FieldType) : Bool :=
  t.underlying.isPointer || t.underlying.isInterface

/-- Whether an entry marks its field with `exists`, as its name or as an option. -/
def marksExists (value : Tag.Value) : Bool :=
  value.name = "exists" || value.hasOption "exists"

/-- The whole tag has to be well formed, and nothing is said about a type that is not known. -/
def check (site : Site) (_text : String) : List Diagnostic :=
  match unquote site.tag.literal with
  | .error _ => []
  | .ok text =>
    match TagSet.parse text with
    | .error _ => []
    | .ok tags =>
      match tags.get? key, site.field.type with
      | some entry, some type =>
        if marksExists entry.value && !isPointerOrInterface type then
          [site.typeDiagnostic existsNonPointer .error "exists field must be pointer/interface"]
        else []
      | _, _ => []

def checker : Checker := ⟨key, check⟩

end BindingRules

end StructTags
