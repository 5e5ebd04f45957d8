import StructTags.Config.Basic
import StructTags.Json.Value

/-!
# Configurations as documents

A configuration may leave out any of its fields.
-/

namespace StructTags

namespace Dialect

def toJson (d : Dialect) : Json := .str d.key

def ofDocument? (r : Reading) (d : Document) : Option Dialect := do
  ofKey? (← d.choice? r)

end Dialect

namespace RuleSetting

def toJson (s : RuleSetting) : Json := .str s.name

def ofDocument? (r : Reading) (d : Document) : Option RuleSetting := do
  ofName? (← d.choice? r)

/-- Sets a rule in a table that is sorted by rule. -/
def insert (ruleId : String) (setting : RuleSetting) :
    List (String × RuleSetting) → List (String × RuleSetting)
  | [] => [(ruleId, setting)]
  | (id, old) :: rest =>
    match Path.compareNames ruleId.toList id.toList with
    | .lt => (ruleId, setting) :: (id, old) :: rest
    | .eq => (id, setting) :: rest
    | .gt => (id, old) :: insert ruleId setting rest

/-- Reads a table of settings. Of two settings for one rule the later one counts. -/
def tableOfDocument? (r : Reading) : Nat → Document → Option (List (String × RuleSetting))
  | 0, _ => none
  | _ + 1, d => do
    let settings ← (← d.namedEntries?).mapM fun (id, setting) => do
      return (id, ← ofDocument? r setting)
    return settings.foldl (fun table (id, setting) => insert id setting table) []

def tableToJson (table : List (String × RuleSetting)) : Json :=
  .obj (table.map fun (id, setting) => (id, setting.toJson))

end RuleSetting

namespace LinterConfig

def toJson (c : LinterConfig) : Json :=
  .obj [("enabled", .ofOption .bool c.enabled), ("rules", .ofOption RuleSetting.tableToJson c.rules)]

def ofDocument? (r : Reading) : Nat → Document → Option LinterConfig
  | 0, _ => none
  | n + 1, d =>
    match d.allFields? r ["enabled", "rules"] with
    | some [enabled, rules] => do
      return {
        enabled := ← Document.optionalField Document.flag? enabled
        rules := ← Document.optionalField (RuleSetting.tableOfDocument? r n) rules }
    | _ => none

end LinterConfig

namespace FilesConfig

def toJson (c : FilesConfig) : Json :=
  .obj
    [("include", .ofOption Json.ofStrings c.included),
     ("exclude", .ofOption Json.ofStrings c.excluded)]

def patterns? (n : Nat) (d : Document) : Option (List String) :=
  d.listOf? n fun _ => Document.text?

def ofDocument? (r : Reading) : Nat → Document → Option FilesConfig
  | 0, _ => none
  | n + 1, d =>
    match d.allFields? r ["include", "exclude"] with
    | some [included, excluded] => do
      return {
        included := ← Document.optionalField (patterns? n) included
        excluded := ← Document.optionalField (patterns? n) excluded }
    | _ => none

end FilesConfig

namespace Config

/-- A field that is left out when there is nothing to say. -/
def fieldToJson {α : Type} (name : String) (encode : α → Json) : Option α → List (String × Json)
  | none => []
  | some a => [(name, encode a)]

def toJson (c : Config) : Json :=
  .obj
    (fieldToJson "dialects" (.ofList Dialect.toJson) c.dialects
      ++ fieldToJson "linter" LinterConfig.toJson c.linter
      ++ fieldToJson "files" FilesConfig.toJson c.files)

def ofDocument? (r : Reading) : Nat → Document → Option Config
  | 0, _ => none
  | n + 1, d =>
    match d.allFields? r ["dialects", "linter", "files"] with
    | some [dialects, linter, files] => do
      return {
        dialects := ←
          Document.optionalField (·.listOf? n fun _ => Dialect.ofDocument? r) dialects
        linter := ← Document.optionalField (LinterConfig.ofDocument? r n) linter
        files := ← Document.optionalField (FilesConfig.ofDocument? r n) files }
    | _ => none

end Config

end StructTags
