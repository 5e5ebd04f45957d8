import StructTags.Rule.Dialect

/-!
# Configuration

What a user may choose: the dialects, the settings of single rules, and which exports are looked
at. What is left out has a default.
-/

namespace StructTags

structure LinterConfig where
  enabled : Option Bool
  /-- Settings of rules, sorted by rule, each rule once. -/
  rules : Option (List (String × RuleSetting))
deriving DecidableEq, Repr

structure FilesConfig where
  included : Option (List String)
  excluded : Option (List String)
deriving DecidableEq, Repr

structure Config where
  dialects : Option (List Dialect) := none
  linter : Option LinterConfig := none
  files : Option FilesConfig := none
deriving DecidableEq, Repr

namespace LinterConfig

def default : LinterConfig where
  enabled := some true
  rules := none

end LinterConfig

namespace FilesConfig

def default : FilesConfig where
  included := some ["**/*.taglint.json", "**/*.taglint.yaml", "**/*.taglint.yml"]
  excluded := some ["**/vendor/**", "**/node_modules/**", "**/target/**"]

end FilesConfig

namespace Config

def enabledDialects (c : Config) : List Dialect :=
  match c.dialects with
  | some ds => Dialect.normalize ds
  | none => Dialect.all

def linterConfig (c : Config) : LinterConfig :=
  c.linter.getD .default

def filesConfig (c : Config) : FilesConfig :=
  c.files.getD .default

/-- The setting of a rule, if there is one. -/
def ruleSetting? (c : Config) (ruleId : String) : Option RuleSetting := do
  (← (← c.linter).rules).lookup ruleId

def isLinterEnabled (c : Config) : Bool :=
  c.linterConfig.enabled.getD true

end Config

end StructTags
