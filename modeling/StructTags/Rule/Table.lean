import StructTags.Rule.Binding
import StructTags.Rule.Bson
import StructTags.Rule.Dialect
import StructTags.Rule.Json

/-!
# The rules

All rules with what is known about them.
-/

namespace StructTags

structure Rule where
  id : String
  /-- The dialect the rule belongs to; none for a rule that belongs to all of them. -/
  dialect : Option Dialect
  severity : Severity
  description : String
deriving DecidableEq, Repr

namespace Rule

def table : List Rule :=
  [⟨Checker.invalidTag, none, .error, "Tag literal cannot be unquoted"⟩,
   ⟨JsonRules.invalidName, some .json, .error,
     "Name contains a quote, backslash, semicolon or other rejected character"⟩,
   ⟨JsonRules.stringNonScalar, some .json, .error,
     "The string option is only meaningful on bool, number and string fields"⟩,
   ⟨JsonRules.sameTagName, some .json, .warning, "Tag name repeats the field name (fixable)"⟩,
   ⟨BsonRules.invalidOptions, some .bson, .error,
     "Options other than omitempty, minsize and inline"⟩,
   ⟨BsonRules.sameTagName, some .bson, .warning, "Tag name repeats the lower-cased field name"⟩,
   ⟨BsonRules.inlineShape, some .bson, .error,
     "inline requires a struct, pointer to struct or map with string keys"⟩,
   ⟨BsonRules.minsizeShape, some .bson, .error, "minsize requires int64, uint64 or uintptr"⟩,
   ⟨BindingRules.existsNonPointer, some .binding, .error,
     "exists requires a pointer or interface field"⟩]

def ofId? (id : String) : Option Rule :=
  table.find? (·.id = id)

end Rule

/-- The checker of a dialect. -/
def Dialect.checker : Dialect → Checker
  | .json => JsonRules.checker
  | .bson => BsonRules.checker
  | .binding => BindingRules.checker

end StructTags
