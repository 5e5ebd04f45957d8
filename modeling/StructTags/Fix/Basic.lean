import StructTags.Diagnostic.Basic
import StructTags.Error

/-!
# Fixes

A fix replaces the text at one place. Fixes for a text are taken in the order of their places,
and one that overlaps a fix already taken is skipped. Those that are taken are applied from the
back to the front, so that the places of the remaining ones stay valid.
-/

namespace StructTags

structure Fix where
  id : String
  description : String
  location : Location
  replacement : String
  applicability : Applicability
  ruleId : String
deriving DecidableEq, Repr

namespace Fix

def isSafe (f : Fix) : Bool :=
  f.applicability = .always

def span (f : Fix) : Span :=
  f.location.span

/-! ## Collecting -/

/-- The fix that a suggestion of a diagnostic stands for. -/
def ofSuggestion (d : Diagnostic) (s : Suggestion) : Fix where
  id := d.ruleId ++ "@" ++ toString s.location.offset
  description := s.message
  location := s.location
  replacement := s.replacement
  applicability := s.applicability
  ruleId := d.ruleId

/-- The fixes that diagnostics suggest, only the safe ones unless all are asked for. -/
def collect (ds : List Diagnostic) (all : Bool) : List Fix :=
  (ds.flatMap fun d => d.suggestions.map (ofSuggestion d)).filter fun f => all || f.isSafe

/-! ## Choosing -/

/-- Two fixes conflict if both touch a common part of one file. -/
def conflictsWith (a b : Fix) : Bool :=
  Path.same a.location.file b.location.file &&
    !(a.span.stop ≤ b.span.start || b.span.stop ≤ a.span.start)

/-- The order of places: by start, then by end. -/
def notAfter (a b : Fix) : Bool :=
  a.span.start < b.span.start || (a.span.start = b.span.start && a.span.stop ≤ b.span.stop)

/-- The fixes in the order of their places; fixes at one place keep their order. -/
def inOrder (fixes : List Fix) : List Fix :=
  fixes.mergeSort notAfter

/-- Splits fixes, in the order given, into those that are taken and those that conflict with one
taken before. `taken` holds the ones taken so far, the last one first. -/
def choose (taken : List Fix) : List Fix → List Fix × List Fix
  | [] => (taken.reverse, [])
  | f :: rest =>
    if taken.any (·.conflictsWith f) then
      let (chosen, skipped) := choose taken rest
      (chosen, f :: skipped)
    else choose (f :: taken) rest

/-! ## Applying -/

/-- The text with one fix applied, unless its place lies outside of the text or cuts a
character. -/
def applyTo? (f : Fix) (cs : List Char) : Option (List Char) :=
  Offset.splice? f.span.start f.span.stop f.replacement.toList cs

/-- Why a fix cannot be applied. -/
def fault (f : Fix) : Error :=
  .autofix ("Fix " ++ f.id ++ " has invalid bounds " ++ toString f.span.start ++ ".."
    ++ toString f.span.stop)

/-- What has become of a text and the fixes for it. -/
structure Outcome where
  text : List Char
  /-- The fixes that were applied, in the order of their places. -/
  applied : List Fix := []
  /-- The fixes that could not be applied, in the order they were tried. -/
  failed : List Fix := []
deriving DecidableEq, Repr

/-- Applies fixes in the order given. -/
def applyEach (cs : List Char) (fixes : List Fix) : Outcome :=
  fixes.foldl
    (fun o f => match f.applyTo? o.text with
      | some text => { o with text, applied := f :: o.applied }
      | none => { o with failed := o.failed ++ [f] })
    { text := cs }

end Fix

/-- The result of applying fixes to a text. -/
structure FixResult where
  content : String
  /-- The fixes that were applied, in the order of their places. -/
  applied : List Fix
  /-- The fixes that overlap another one before them. -/
  skipped : List Fix
  /-- The fixes whose place is none in the text. -/
  failed : List Fix
deriving DecidableEq, Repr

namespace FixResult

def errors (r : FixResult) : List String :=
  r.failed.map fun f => "Fix " ++ f.id ++ ": " ++ f.fault.message

end FixResult

/-- Applies fixes to a text. -/
def Fix.applyAll (content : String) (fixes : List Fix) : FixResult :=
  let (chosen, skipped) := choose [] (inOrder fixes)
  let outcome := applyEach content.toList chosen.reverse
  { content := String.ofList outcome.text
    applied := outcome.applied
    skipped
    failed := outcome.failed }

end StructTags
