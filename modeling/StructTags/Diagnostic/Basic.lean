import StructTags.Diagnostic.Position
import StructTags.Model.Basic
import StructTags.Path.Basic

/-!
# Diagnostics

What a rule reports: which rule, how severe, a message, where, and what could be done about it.
-/

namespace StructTags

inductive Severity where
  | info
  | warning
  | error
deriving DecidableEq, Repr

namespace Severity

def all : List Severity := [.info, .warning, .error]

def name : Severity → String
  | .info => "info"
  | .warning => "warning"
  | .error => "error"

def ofName? (s : String) : Option Severity :=
  all.find? (·.name = s)

end Severity

/-- A place in a file. Line and column are 0 if the text of the file is not known. -/
structure Location where
  file : String
  line : Nat
  column : Nat
  offset : Nat
  length : Nat
deriving DecidableEq, Repr

namespace Location

/-- The place of a span in a file. -/
def ofSpan (file : SourceFile) (span : Span) : Location :=
  let position := match file.source with
    | some source => (LineIndex.ofSource source).position source span.start
    | none => ⟨0, 0⟩
  { file := file.path
    line := position.line
    column := position.column
    offset := span.start
    length := span.length }

def span (l : Location) : Span :=
  ⟨l.offset, l.offset + l.length⟩

def display (l : Location) : String :=
  if l.line = 0 then l.file ++ "@" ++ toString l.offset
  else l.file ++ ":" ++ toString l.line ++ ":" ++ toString l.column

/-- Orders places by file and then by offset. -/
def compare (a b : Location) : Ordering :=
  (Path.compare a.file b.file).then (Ord.compare a.offset b.offset)

/-- Whether two places start at the same position. -/
def samePosition (a b : Location) : Bool :=
  Path.same a.file b.file && a.offset = b.offset

end Location

/-- Whether a suggestion can be applied without a second look. -/
inductive Applicability where
  | always
  | maybeIncorrect
deriving DecidableEq, Repr

namespace Applicability

def all : List Applicability := [.always, .maybeIncorrect]

def name : Applicability → String
  | .always => "always"
  | .maybeIncorrect => "maybeIncorrect"

def ofName? (s : String) : Option Applicability :=
  all.find? (·.name = s)

def display : Applicability → String
  | .always => "safe"
  | .maybeIncorrect => "unsafe"

end Applicability

/-- A replacement for the text at a place. -/
structure Suggestion where
  message : String
  replacement : String
  location : Location
  applicability : Applicability
deriving DecidableEq, Repr

structure Diagnostic where
  ruleId : String
  severity : Severity
  message : String
  location : Location
  suggestions : List Suggestion := []
deriving DecidableEq, Repr

def Diagnostic.hasSafeFix (d : Diagnostic) : Bool :=
  d.suggestions.any (·.applicability = .always)

end StructTags
