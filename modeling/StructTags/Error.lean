import StructTags.Glob.Pattern
import StructTags.Tag.Pair
import StructTags.Text.Quoted

/-!
# Errors

What can go wrong outside of the rules, by cause. The wording is in `Error.message` alone.
-/

namespace StructTags

/-- Why a file cannot be read or written. -/
inductive IoFault where
  | notFound
  | isDirectory
  | notDirectory
  | invalidText
  | other (text : String)
deriving DecidableEq, Repr

def IoFault.message : IoFault → String
  | .notFound => "No such file or directory (os error 2)"
  | .isDirectory => "Is a directory (os error 21)"
  | .notDirectory => "Not a directory (os error 20)"
  | .invalidText => "stream did not contain valid UTF-8"
  | .other text => text

/-- What is wrong with a configuration. -/
inductive ConfigFault where
  | unsupported (path : String)
  | malformed (path : String)
  | missing (path : String)
  | invalidStart (cause : IoFault)
  | invalidGlob (pattern : String) (fault : Glob.Fault)
  | other (text : String)
deriving DecidableEq, Repr

def ConfigFault.message : ConfigFault → String
  | .unsupported path =>
    path ++ ": Unsupported file extension (expected .json, .toml, .yaml or .yml)"
  | .malformed path => path ++ ": malformed document"
  | .missing path => "Config file not found: " ++ path
  | .invalidStart cause => "Invalid path: " ++ cause.message
  | .invalidGlob pattern fault => "Invalid glob pattern '" ++ pattern ++ "': " ++ fault.message
  | .other text => text

/-- What is wrong with a model export. -/
inductive ModelFault where
  | unsupported
  | malformed
  | other (text : String)
deriving DecidableEq, Repr

def ModelFault.message : ModelFault → String
  | .unsupported => "Unsupported file extension (expected .json, .yaml or .yml)"
  | .malformed => "malformed document"
  | .other text => text

inductive Error where
  | literal (literal reason : String)
  | tagSyntax (part : Tag.Part) (tag : String)
  | config (fault : ConfigFault)
  /-- A configuration that was asked for or found cannot be loaded. -/
  | unloadableConfig (path : String) (cause : Error)
  | model (path : String) (fault : ModelFault)
  | io (path : String) (fault : IoFault)
  | autofix (message : String)
  | internal (message : String)
deriving Repr

/-- The areas that errors come from. -/
inductive ErrorKind where
  | tag
  | config
  | model
  | io
  | autofix
  | internal
deriving DecidableEq, Repr

namespace Error

def kind : Error → ErrorKind
  | .literal .. | .tagSyntax .. => .tag
  | .config _ | .unloadableConfig .. => .config
  | .model .. => .model
  | .io .. => .io
  | .autofix _ => .autofix
  | .internal _ => .internal

/-- Whether other fields and files can still be looked at. -/
def isRecoverable (e : Error) : Bool :=
  match e.kind with
  | .tag | .model | .autofix => true
  | _ => false

def partMessage : Tag.Part → String
  | .key => "bad syntax for struct tag key"
  | .pair => "bad syntax for struct tag pair"
  | .value => "bad syntax for struct tag value"

def message : Error → String
  | .literal text reason => "Invalid quoted literal " ++ quoted text ++ ": " ++ reason
  | .tagSyntax part tag => partMessage part ++ ": " ++ quoted tag
  | .config fault => "Configuration error: " ++ fault.message
  | .unloadableConfig path cause =>
    "Configuration error: Failed to load config from '" ++ path ++ "': " ++ cause.message
  | .model path fault => "Model error for '" ++ path ++ "': " ++ fault.message
  | .io path fault => "IO error for path '" ++ path ++ "': " ++ fault.message
  | .autofix message => "Autofix error: " ++ message
  | .internal message => "Internal error: " ++ message

/-- Whether the error is that a document does not have the form it should have. -/
def isMalformed : Error → Bool
  | .config (.malformed _) => true
  | .unloadableConfig _ cause => cause.isMalformed
  | .model _ .malformed => true
  | _ => false

end Error

end StructTags
