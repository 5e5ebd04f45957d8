import StructTags.Diagnostic.Basic
import StructTags.Tag.Pair

/-!
# Checkers

A checker reads the values under one tag key. Running it over a package visits every field: a tag
whose literal cannot be decoded is reported as such, and a field whose tag holds the key is handed
to the checker with the value. The reports are collected on the way.
-/

namespace StructTags

/-- A field with a tag, and the file it stands in. -/
structure Site where
  file : SourceFile
  field : Field
  tag : TagLiteral

namespace Site

def tagLocation (s : Site) : Location :=
  .ofSpan s.file s.tag.span

def typeLocation (s : Site) : Location :=
  .ofSpan s.file s.field.typeSpan

/-- The tag as the source has it, or as the model has it if the source is not known. -/
def tagText (s : Site) : String :=
  (s.file.text? s.tag.span).getD s.tag.literal

/-- The type as the source has it, or else as it was resolved. -/
def typeText (s : Site) : String :=
  match (s.file.text? s.field.typeSpan).filter (!·.isEmpty) with
  | some text => text
  | none => match s.field.type with
    | some t => t.display
    | none => "<unresolved>"

/-- A report about the tag, which is shown behind the message. -/
def tagDiagnostic (s : Site) (ruleId : String) (severity : Severity) (message : String) :
    Diagnostic where
  ruleId := ruleId
  severity := severity
  message := message ++ ": " ++ s.tagText
  location := s.tagLocation

/-- A report about the type, which is shown behind the message. -/
def typeDiagnostic (s : Site) (ruleId : String) (severity : Severity) (message : String) :
    Diagnostic where
  ruleId := ruleId
  severity := severity
  message := message ++ ": " ++ s.typeText
  location := s.typeLocation

end Site

/-- What a visit to a field comes upon. -/
inductive Encounter where
  /-- A tag that cannot be decoded. -/
  | invalid (site : Site)
  /-- A tag with a value under the key. -/
  | carries (site : Site) (value : String)

/-- What is to be said about a field to a reader of `key`. -/
def encounter? (key : String) (file : SourceFile) (field : Field) : Option Encounter :=
  match field.tag with
  | none => none
  | some tag =>
    match unquote tag.literal with
    | .error _ => some (.invalid ⟨file, field, tag⟩)
    | .ok text => (Tag.lookup text key).map (.carries ⟨file, field, tag⟩)

/-- What a reader of `key` comes upon in a package. -/
def Package.encounters (p : Package) (key : String) : List Encounter :=
  p.visit.filterMap fun x => encounter? key x.1 x.2

structure Checker where
  /-- The tag key that the checker reads. -/
  key : String
  /-- The reports about a field that has the given value under the key. -/
  check : Site → String → List Diagnostic

namespace Checker

/-- The rule that tags must be literals which can be decoded. -/
def invalidTag : String := "tag/invalid-tag"

def report (c : Checker) : Encounter → List Diagnostic
  | .invalid site => [site.tagDiagnostic invalidTag .error "invalid tag"]
  | .carries site value => c.check site value

/-- Visits a field and collects the reports about it. -/
def visit (c : Checker) (file : SourceFile) (collected : List Diagnostic) (field : Field) :
    List Diagnostic :=
  match encounter? c.key file field with
  | none => collected
  | some e => collected ++ c.report e

/-- Visits the fields of a struct, one after the other. -/
def enter (c : Checker) (file : SourceFile) (collected : List Diagnostic) (s : Struct) :
    List Diagnostic :=
  s.fields.foldl (c.visit file) collected

/-- Enters the structs of a package, one after the other. What was collected before is kept. -/
def run (c : Checker) (p : Package) (before : List Diagnostic := []) : List Diagnostic :=
  p.entered.foldl (fun collected x => c.enter x.1 collected x.2) before

end Checker

end StructTags
