import StructTags.Diagnostic.Basic
import StructTags.Model.Sources
import StructTags.Report.Paint
import StructTags.Text.Line

/-!
# Reports as text

A report names the rule and the place, shows the line with the place marked, and for each
suggestion the line before and after. Lines are shown for files whose text is known.
-/

namespace StructTags

namespace Report

/-- What a text report is made with. -/
structure Style where
  paint : Paint
  sources : Sources := []
deriving DecidableEq, Repr

namespace Style

/-- The line with the given number in the text of a file. -/
def line? (s : Style) (file : String) (number : Nat) : Option (List Char) := do
  let source ← s.sources.text? file
  if number = 0 then none else (Line.displayed source)[number - 1]?

end Style

def severityColor : Severity → Color
  | .error => .red
  | .warning => .yellow
  | .info => .blue

def blanks (n : Nat) : String :=
  String.ofList (List.replicate n ' ')

/-- The line that names severity, rule and message. -/
def header (s : Style) (d : Diagnostic) : String :=
  s.paint.apply (severityColor d.severity) d.severity.name
    ++ s.paint.apply .dim ("[" ++ d.ruleId ++ "]") ++ ": "
    ++ s.paint.apply .bold d.message ++ "\n"

/-- The line that names the place. -/
def arrow (s : Style) (d : Diagnostic) : String :=
  "  " ++ s.paint.apply .blue "-->" ++ " " ++ d.location.display ++ "\n"

/-- How many characters of a line are marked: those at the place, but at least one. -/
def markWidth (line : List Char) (l : Location) : Nat :=
  max ((line.drop (l.column - 1)).take (max l.length 1)).length 1

/-- The line of a diagnostic, with its number in front and the place marked below. -/
def frame (s : Style) (d : Diagnostic) (line : List Char) : String :=
  let number := toString d.location.line
  let pad := blanks number.length
  let bar := s.paint.apply .blue "|"
  let mark := String.ofList (List.replicate (markWidth line d.location) '^')
  "  " ++ pad ++ " " ++ bar ++ "\n"
    ++ "  " ++ s.paint.apply .dim number ++ " " ++ bar ++ " " ++ String.ofList line ++ "\n"
    ++ "  " ++ pad ++ " " ++ bar ++ " " ++ blanks (d.location.column - 1)
    ++ s.paint.apply (severityColor d.severity) mark ++ "\n"

/-- A line with the text at a place replaced. The place starts at a column and is as many bytes
long as it says, or up to the end of the line. If it ends inside a character, only the
replacement is shown. -/
def replacedLine (line : List Char) (l : Location) (replacement : List Char) : List Char :=
  let (before, after) := line.splitAt (l.column - 1)
  match Offset.cut? (min l.length (Utf8.size after)) after with
  | some (_, rest) => before ++ replacement ++ rest
  | none => replacement

def suggestion (s : Style) (x : Suggestion) : String :=
  let (label, color) : String × Color := match x.applicability with
    | .always => ("Safe fix", .green)
    | .maybeIncorrect => ("Unsafe fix", .yellow)
  "  " ++ s.paint.apply .blue "i" ++ " " ++ s.paint.apply color label ++ ": " ++ x.message ++ "\n"
    ++ match s.line? x.location.file x.location.line with
      | none =>
        "      replace with: "
          ++ (if x.replacement.isEmpty then "(remove)" else x.replacement) ++ "\n"
      | some line =>
        let replaced := replacedLine line x.location x.replacement.toList
        "    " ++ s.paint.apply .red "-" ++ " " ++ s.paint.apply .red (String.ofList line) ++ "\n"
          ++ "    " ++ s.paint.apply .green "+" ++ " "
          ++ s.paint.apply .green (String.ofList replaced) ++ "\n"

/-- The report about one diagnostic. -/
def single (s : Style) (d : Diagnostic) : String :=
  let shown := match s.line? d.location.file d.location.line with
    | some line => frame s d line
    | none => ""
  header s d ++ arrow s d ++ shown ++ String.join (d.suggestions.map (suggestion s))

/-- The reports about diagnostics, separated by empty lines. -/
def text (s : Style) (ds : List Diagnostic) : String :=
  "\n".intercalate (ds.map (single s))

end Report

end StructTags
