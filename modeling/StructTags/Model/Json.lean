import StructTags.Model.Basic
import StructTags.Type.Json

/-!
# Packages as documents

How a package is exported as JSON, and how an export is read. Readers take the depth to which a
document may be nested, which falls by one with every list and record they go into.
-/

namespace StructTags

namespace Span

def toJson (s : Span) : Json :=
  .obj [("start", .nat s.start), ("end", .nat s.stop)]

def ofDocument? (r : Reading) : Nat → Document → Option Span
  | 0, _ => none
  | _ + 1, d =>
    match d.fields? r ["start", "end"] with
    | some [some start, some stop] => do
      return { start := ← start.natural?, stop := ← stop.natural? }
    | _ => none

end Span

namespace TagLiteral

def toJson (t : TagLiteral) : Json :=
  .obj [("literal", .str t.literal), ("span", t.span.toJson)]

def ofDocument? (r : Reading) : Nat → Document → Option TagLiteral
  | 0, _ => none
  | n + 1, d =>
    match d.fields? r ["literal", "span"] with
    | some [some literal, some span] => do
      return { literal := ← literal.text?, span := ← Span.ofDocument? r n span }
    | _ => none

end TagLiteral

/-! ## Writing -/

mutual

def Field.toJson : Field → Json
  | ⟨name, type, typeSpan, tag, nested⟩ =>
    .obj
      ([("name", .ofOption .str name),
        ("type", .ofOption FieldType.toJson type),
        ("typeSpan", typeSpan.toJson),
        ("tag", .ofOption TagLiteral.toJson tag)] ++
        match nested with
        | [] => []
        | s :: rest => [("nested", .arr (s.toJson :: structsToJson rest))])

def Struct.toJson : Struct → Json
  | ⟨name, span, fields⟩ =>
    .obj
      [("name", .ofOption .str name),
       ("span", span.toJson),
       ("fields", .arr (fieldsToJson fields))]

def fieldsToJson : List Field → List Json
  | [] => []
  | f :: rest => f.toJson :: fieldsToJson rest

def structsToJson : List Struct → List Json
  | [] => []
  | s :: rest => s.toJson :: structsToJson rest

end

def SourceFile.toJson (f : SourceFile) : Json :=
  .obj
    [("path", .str f.path),
     ("source", .ofOption .str f.source),
     ("structs", .arr (structsToJson f.structs))]

def Package.toJson (p : Package) : Json :=
  .obj [("name", .ofOption .str p.name), ("files", .ofList SourceFile.toJson p.files)]

/-! ## Reading -/

mutual

def Field.ofDocument? (r : Reading) : Nat → Document → Option Field
  | 0, _ => none
  | n + 1, d =>
    match d.fields? r ["name", "type", "typeSpan", "tag", "nested"] with
    | some [name, type, typeSpan, tag, nested] => do
      return {
        name := ← Document.optionalField Document.text? name
        type := ← Document.optionalField (FieldType.ofDocument? n) type
        typeSpan := ← Document.fieldOr {} (Span.ofDocument? r n) typeSpan
        tag := ← Document.optionalField (TagLiteral.ofDocument? r n) tag
        nested := ← match nested with
          | none => some []
          | some d => Struct.listOfDocument? r n d }
    | _ => none

def Struct.ofDocument? (r : Reading) : Nat → Document → Option Struct
  | 0, _ => none
  | n + 1, d =>
    match d.fields? r ["name", "span", "fields"] with
    | some [name, span, fields] => do
      return {
        name := ← Document.optionalField Document.text? name
        span := ← Document.fieldOr {} (Span.ofDocument? r n) span
        fields := ← match fields with
          | none => some []
          | some d => Field.listOfDocument? r n d }
    | _ => none

def Field.listOfDocument? (r : Reading) : Nat → Document → Option (List Field)
  | 0, _ => none
  | n + 1, d => do (← d.items?).mapM (Field.ofDocument? r n)

def Struct.listOfDocument? (r : Reading) : Nat → Document → Option (List Struct)
  | 0, _ => none
  | n + 1, d => do (← d.items?).mapM (Struct.ofDocument? r n)

end

def SourceFile.ofDocument? (r : Reading) : Nat → Document → Option SourceFile
  | 0, _ => none
  | n + 1, d =>
    match d.fields? r ["path", "source", "structs"] with
    | some [some path, source, structs] => do
      return {
        path := ← path.text?
        source := ← Document.optionalField Document.text? source
        structs := ← Document.fieldOr [] (Struct.listOfDocument? r n) structs }
    | _ => none

def Package.ofDocument? (r : Reading) : Nat → Document → Option Package
  | 0, _ => none
  | n + 1, d =>
    match d.fields? r ["name", "files"] with
    | some [name, files] => do
      return {
        name := ← Document.optionalField Document.text? name
        files := ← Document.fieldOr [] (·.listOf? n (SourceFile.ofDocument? r)) files }
    | _ => none

end StructTags
