import StructTags.Diagnostic.Basic

/-!
# Dialects and settings

A dialect is a set of rules about the tag values under one key. A setting says how severe the
reports of a rule are, or turns the rule off.
-/

namespace StructTags

inductive Dialect where
  | json
  | bson
  | binding
deriving DecidableEq, Repr

namespace Dialect

/-- All dialects in the order they are run. -/
def all : List Dialect := [.json, .bson, .binding]

/-- The tag key that the dialect reads. -/
def key : Dialect → String
  | .json => "json"
  | .bson => "bson"
  | .binding => "binding"

def ofKey? (s : String) : Option Dialect :=
  all.find? (·.key = s)

/-- The place of a dialect among all of them. -/
def rank : Dialect → Nat
  | .json => 0
  | .bson => 1
  | .binding => 2

/-- Leaves one of each run of equal dialects. -/
def squeeze : List Dialect → List Dialect
  | a :: b :: rest => if a = b then squeeze (b :: rest) else a :: squeeze (b :: rest)
  | ds => ds

/-- The given dialects in the order they are run, each once. -/
def normalize (ds : List Dialect) : List Dialect :=
  squeeze (ds.mergeSort fun a b => a.rank ≤ b.rank)

end Dialect

/-- What a configuration says about a rule. -/
inductive RuleSetting where
  | off
  | info
  | warn
  | error
deriving DecidableEq, Repr

namespace RuleSetting

def all : List RuleSetting := [.off, .info, .warn, .error]

def name : RuleSetting → String
  | .off => "off"
  | .info => "info"
  | .warn => "warn"
  | .error => "error"

def ofName? (s : String) : Option RuleSetting :=
  all.find? (·.name = s)

/-- The severity of the rule's reports, unless it is off. -/
def severity? : RuleSetting → Option Severity
  | .off => none
  | .info => some .info
  | .warn => some .warning
  | .error => some .error

end RuleSetting

end StructTags
