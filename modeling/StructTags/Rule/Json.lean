import StructTags.Rule.Checker
import StructTags.Tag.Set
import StructTags.Unicode.DecimalDigit
import StructTags.Unicode.Letter

/-!
# The json dialect

A name may hold only characters that encoders accept, the option `string` needs a scalar field,
and a name that merely repeats the field's name can go.
-/

namespace StructTags

namespace JsonRules

def invalidName : String := "json/invalid-name"

def stringNonScalar : String := "json/string-non-scalar"

def sameTagName : String := "json/same-tag-name"

def key : String := "json"

/-- What a name may hold besides letters and digits. -/
def namePunctuation : List Char :=
  ['!', '#', '$', '%', '&', '(', ')', '*', '+', '-', '.', '/', ':', '<', '=', '>', '?', '@', '[',
    ']', '^', '_', '{', '|', '}', '~', ' ']

def isNameChar (c : Char) : Bool :=
  Unicode.isLetter c || Unicode.isDecimalDigit c || namePunctuation.contains c

/-- Whether a name consists of accepted characters. The empty name stands for the field's own. -/
def isValidName (name : String) : Bool :=
  name.toList.all isNameChar

/-- Whether a type is a bool, a number or a string behind names and pointers. -/
def isScalar (type : Option FieldType) : Bool :=
  match type.bind FieldType.basicKind? with
  | some kind => kind.isInteger || kind.isFloat || kind = .bool || kind = .string
  | none => false

def checkName (site : Site) (value : Tag.Value) : List Diagnostic :=
  if isValidName value.name then []
  else [site.tagDiagnostic invalidName .error "invalid name"]

def checkString (site : Site) (value : Tag.Value) : List Diagnostic :=
  if value.hasOption "string" && !isScalar site.field.type then
    [site.tagDiagnostic stringNonScalar .error "string must use on scalar field"]
  else []

/-- The tag without the name, or without the entry if there are no options to keep, and what this
does in words. -/
def withoutName (tags : TagSet) : TagSet × String :=
  match tags.get? key with
  | some entry =>
    if entry.value.options.isEmpty then (tags.erase key, "remove the json tag")
    else (tags.clearName key, "drop the json tag name")
  | none => (tags.erase key, "remove the json tag")

/-- Reports a name equal to the field's, with the tag that remains without it as suggestion. -/
def checkSameName (site : Site) (value : Tag.Value) : List Diagnostic :=
  if site.field.name = some value.name then
    match TagSet.parseLiteral site.tag.literal with
    | .error _ => []
    | .ok tags =>
      let (rest, action) := withoutName tags
      [{ site.tagDiagnostic sameTagName .warning "same json tag name" with
          suggestions :=
            [{ message := action
               replacement := rest.literal
               location := site.tagLocation
               applicability := .always }] }]
  else []

def check (site : Site) (text : String) : List Diagnostic :=
  match Tag.Usage.ofText text with
  | .skip => []
  | .use value => checkName site value ++ checkString site value ++ checkSameName site value

def checker : Checker := ⟨key, check⟩

end JsonRules

end StructTags
