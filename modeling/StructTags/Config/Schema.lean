import StructTags.Json.Value

/-!
# The schema of configurations

A JSON Schema that describes what a configuration may hold.
-/

namespace StructTags

namespace Config

namespace Schema

def described (text : String) (rest : List (String × Json)) : Json :=
  .obj (("description", .str text) :: rest)

def reference (name : String) : Json :=
  .obj [("$ref", .str ("#/$defs/" ++ name))]

/-- A value of the given type or null. -/
def orNull (type : String) : String × Json :=
  ("type", .ofStrings [type, "null"])

/-- A value of a referenced type or null. -/
def referenceOrNull (name : String) : String × Json :=
  ("anyOf", .arr [reference name, .obj [("type", .str "null")]])

def constant (text value : String) : Json :=
  described text [("type", .str "string"), ("const", .str value)]

def patterns (text : String) : Json :=
  described text [orNull "array", ("items", .obj [("type", .str "string")])]

def properties : Json :=
  .obj
    [("dialects",
      described "Tag dialects to check (default: all)"
        [orNull "array", ("items", reference "Dialect")]),
     ("linter", described "Linter configuration" [referenceOrNull "LinterConfiguration"]),
     ("files", described "File discovery configuration" [referenceOrNull "FilesConfiguration"])]

def dialect : Json :=
  described "Tag dialects understood by the checker"
    [("type", .str "string"), ("enum", .ofStrings ["json", "bson", "binding"])]

def linterConfig : Json :=
  described "Linter configuration"
    [("type", .str "object"),
     ("properties", .obj
      [("enabled", described "Enable or disable the linter" [orNull "boolean"]),
       ("rules",
        described "Rule severity overrides, e.g. \x7b\"json/same-tag-name\": \"error\"\x7d"
          [orNull "object", ("additionalProperties", reference "RuleSeverity")])])]

def ruleSetting : Json :=
  described "Rule severity levels"
    [("oneOf", .arr
      [constant "Disable the rule" "off",
       constant "Informational message" "info",
       constant "Warning" "warn",
       constant "Error" "error"])]

def filesConfig : Json :=
  described "Files configuration"
    [("type", .str "object"),
     ("properties", .obj
      [("include", patterns "Glob patterns for model exports to include"),
       ("exclude", patterns "Glob patterns for model exports to exclude")])]

end Schema

/-- The schema of configurations. -/
def schema : Json :=
  .obj
    [("$schema", .str "https://json-schema.org/draft/2020-12/schema"),
     ("title", .str "TaglintConfig"),
     ("description", .str "Top-level configuration"),
     ("type", .str "object"),
     ("properties", Schema.properties),
     ("$defs", .obj
      [("Dialect", Schema.dialect),
       ("LinterConfiguration", Schema.linterConfig),
       ("RuleSeverity", Schema.ruleSetting),
       ("FilesConfiguration", Schema.filesConfig)])]

end Config

end StructTags
