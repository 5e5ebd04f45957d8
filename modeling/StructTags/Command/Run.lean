import StructTags.Command.Check
import StructTags.Config.Schema

/-!
# Running commands
-/

namespace StructTags

namespace Command

def versionText : String :=
  Sarif.toolName ++ " " ++ Sarif.toolVersion ++ "\n"

def usageText : String :=
  "Usage: taglint [OPTIONS] <COMMAND>\n\n"
    ++ "Commands:\n"
    ++ "  check [OPTIONS] [PATHS]...  Check struct tags in model exports\n"
    ++ "  rules [OPTIONS]             List available rules\n"
    ++ "  config schema               Print the JSON Schema of the configuration file\n"
    ++ "  config show                 Show the configuration in effect\n\n"
    ++ "Options:\n"
    ++ "  -c, --config <CONFIG>    Path to configuration file\n"
    ++ "  -v, --verbose...         Verbose output\n"
    ++ "      --no-color           Disable colored output\n"
    ++ "  -d, --dialect <DIALECT>  Only these dialects: json, bson, binding\n"
    ++ "  -f, --format <FORMAT>    Output format: human, json, sarif\n"
    ++ "      --fix                Apply safe fixes in place\n"
    ++ "      --diff               Show fixes as a diff without writing\n"
    ++ "      --include <INCLUDE>  Include patterns (replace configured ones)\n"
    ++ "      --exclude <EXCLUDE>  Exclude patterns (replace configured ones)\n"
    ++ "  -h, --help               Print help\n"
    ++ "  -V, --version            Print version\n"

/-! ## Rules -/

/-- The setting of a rule that is in effect. -/
def effectiveSetting (c : Config) (r : Rule) : String :=
  match c.ruleSetting? r.id with
  | none => r.severity.name
  | some setting => match setting.severity? with
    | none => setting.name
    | some severity => severity.name

/-- A text filled up with blanks. -/
def padded (width : Nat) (s : String) : String :=
  s ++ Report.blanks (width - s.length)

def ruleLine (c : Config) (r : Rule) : String :=
  let dialect := match r.dialect with
    | some d => d.key
    | none => "all"
  "  " ++ padded 28 r.id ++ " " ++ padded 8 dialect ++ " " ++ padded 8 (effectiveSetting c r) ++ " "
    ++ r.description ++ "\n"

def ruleJson (c : Config) (r : Rule) : Json :=
  .obj
    [("id", .str r.id),
     ("dialect", .ofOption (fun d => .str d.key) r.dialect),
     ("defaultSeverity", r.severity.toJson),
     ("severity", .str (effectiveSetting c r)),
     ("description", .str r.description)]

/-- The rules of a dialect, those that belong to all dialects included. -/
def rulesOf (dialect? : Option Dialect) : List Rule :=
  Rule.table.filter fun r => dialect?.isNone || r.dialect.isNone || r.dialect = dialect?

def rulesText (c : Config) (dialect? : Option Dialect) (format : ListFormat) : String :=
  let rules := rulesOf dialect?
  match format with
  | .json => (Json.ofList (ruleJson c) rules).pretty ++ "\n"
  | .human =>
    "Available Rules:\n================\n" ++ String.join (rules.map (ruleLine c))
      ++ "\nTotal: " ++ toString rules.length ++ " rules\n"

/-! ## Configurations -/

/-- The configuration with its defaults filled in. -/
def resolved (c : Config) : Config where
  dialects := some c.enabledDialects
  linter := some c.linterConfig
  files := some c.filesConfig

/-! ## Commands -/

variable {m : Type → Type} [Monad m] [FileAccess m]

/-- Runs a command that only shows something about the configuration in effect. -/
def withConfig (config? : Option String) (text : Config → String) : m Outcome := do
  match ← Config.loadFor config? "." with
  | .error e => return .failed [] e
  | .ok c => return { out := text c }

def runInvocation (t : Terminal) (i : Invocation) : m Outcome :=
  match i.action with
  | .check o => check o i.config? i.noColor t
  | .rules dialect? format => withConfig i.config? fun c => rulesText c dialect? format
  | .configSchema => return { out := Config.schema.pretty ++ "\n" }
  | .configShow => withConfig i.config? fun c => (resolved c).toJson.pretty ++ "\n"

/-- Runs a command line. -/
def run (t : Terminal) (args : List String) : m Outcome :=
  match parse args with
  | .ok i => runInvocation t i
  | .error .version => return { out := versionText }
  | .error .help => return { out := usageText }
  | .error .usage => return { code := 2 }

end Command

end StructTags
