import StructTags.Rule.Dialect

/-!
# Command lines

A command line names a command, on a second level for some, and every level has options of its
own. Options are long (`--format json`, `--format=json`) or short (`-f json`, `-fjson`, `-f=json`),
and short ones may be put together. Behind `--` there are only operands.
-/

namespace StructTags

namespace Command

/-- Why a command line asks for no command to be run. -/
inductive Stop where
  | usage
  | help
  | version
deriving DecidableEq, Repr

/-! ## Levels -/

/-- What an option takes and how often it may be given. -/
inductive Takes where
  /-- Nothing, and it may be given once. -/
  | nothing
  /-- Nothing, and it may be repeated. -/
  | repeats
  /-- A value of the given form, and it may be given once. -/
  | value (valid : String → Bool)
  /-- A value of the given form, and it may be repeated. -/
  | values (valid : String → Bool)
  /-- Nothing, and nothing else counts. -/
  | stop (reason : Stop)

structure OptionSpec where
  name : String
  short? : Option Char := none
  takes : Takes

/-- What may stand on a level besides options. -/
inductive Operands where
  | none
  | paths
  | commands (names : List String)

structure Level where
  options : List OptionSpec
  operands : Operands

/-- What was given on a level, in order. -/
structure Given where
  options : List (String × String) := []
  operands : List String := []
deriving DecidableEq, Repr

namespace Given

def has (g : Given) (name : String) : Bool :=
  g.options.any (·.1 = name)

def values (g : Given) (name : String) : List String :=
  (g.options.filter (·.1 = name)).map (·.2)

def value? (g : Given) (name : String) : Option String :=
  (g.values name).getLast?

/-- Records an option. -/
def add (g : Given) (spec : OptionSpec) (value : String) : Except Stop Given :=
  let added : Given := { g with options := g.options ++ [(spec.name, value)] }
  match spec.takes with
  | .nothing => if g.has spec.name then .error .usage else .ok added
  | .repeats => .ok added
  | .value valid => if g.has spec.name || !valid value then .error .usage else .ok added
  | .values valid => if valid value then .ok added else .error .usage
  | .stop reason => .error reason

end Given

def OptionSpec.takesValue (spec : OptionSpec) : Bool :=
  match spec.takes with
  | .value _ | .values _ => true
  | _ => false

/-! ## Reading a level -/

/-- The name and the value of a long option without its dashes. -/
def splitLong (cs : List Char) : String × Option String :=
  let name := String.ofList (cs.takeWhile (· ≠ '='))
  match cs.dropWhile (· ≠ '=') with
  | [] => (name, none)
  | _ :: value => (name, some (String.ofList value))

/-- Reads short options that were put together. If the last one still needs its value, it is
returned too. -/
def readShort (level : Level) (g : Given) : List Char → Except Stop (Given × Option OptionSpec)
  | [] => .ok (g, none)
  | c :: rest =>
    match level.options.find? (·.short? = some c) with
    | none => .error .usage
    | some spec =>
      if spec.takesValue then
        match rest with
        | [] => .ok (g, some spec)
        | '=' :: value | value => do return (← g.add spec (String.ofList value), none)
      else do readShort level (← g.add spec "") rest

/-- Reads a long option. -/
def readLong (level : Level) (g : Given) (cs : List Char) :
    Except Stop (Given × Option OptionSpec) :=
  let (name, value?) := splitLong cs
  match level.options.find? (·.name = name), value? with
  | none, _ => .error .usage
  | some spec, some value =>
    if spec.takesValue then do return (← g.add spec value, none) else .error .usage
  | some spec, none =>
    if spec.takesValue then .ok (g, some spec) else do return (← g.add spec "", none)

/-- Reads the arguments of a level up to the name of a command, which is returned with the arguments
behind it. `pending?` is an option that needs its value, and `literal` says that only operands are
left. -/
def readLevel (level : Level) (literal : Bool) (pending? : Option OptionSpec) (g : Given) :
    List String → Except Stop (Given × Option (String × List String))
  | [] => if pending?.isSome then .error .usage else .ok (g, none)
  | arg :: rest =>
    let operand : Except Stop (Given × Option (String × List String)) :=
      match level.operands with
      | .none => .error .usage
      | .paths =>
        if arg.isEmpty then .error .usage
        else readLevel level literal none { g with operands := g.operands ++ [arg] } rest
      | .commands names =>
        if !literal && names.contains arg then .ok (g, some (arg, rest)) else .error .usage
    if literal then operand
    else match arg.toList, pending? with
      | ['-', '-'], none => readLevel level true none g rest
      | '-' :: '-' :: cs, none => do
        let (g, pending?) ← readLong level g cs
        readLevel level false pending? g rest
      | '-' :: c :: cs, none => do
        let (g, pending?) ← readShort level g (c :: cs)
        readLevel level false pending? g rest
      | '-' :: _ :: _, some _ => .error .usage
      | _, some spec => do readLevel level false none (← g.add spec arg) rest
      | _, none => operand

/-! ## The commands -/

inductive OutputFormat where
  | human
  | json
  | sarif
deriving DecidableEq, Repr

namespace OutputFormat

def ofName? : String → Option OutputFormat
  | "human" => some .human
  | "json" => some .json
  | "sarif" => some .sarif
  | _ => none

end OutputFormat

inductive ListFormat where
  | human
  | json
deriving DecidableEq, Repr

namespace ListFormat

def ofName? : String → Option ListFormat
  | "human" => some .human
  | "json" => some .json
  | _ => none

end ListFormat

structure CheckOptions where
  paths : List String := []
  dialects : List Dialect := []
  format : OutputFormat := .human
  fix : Bool := false
  diff : Bool := false
  included : List String := []
  excluded : List String := []
deriving DecidableEq, Repr

inductive Action where
  | check (options : CheckOptions)
  | rules (dialect? : Option Dialect) (format : ListFormat)
  | configSchema
  | configShow
deriving DecidableEq, Repr

/-- What a command line asks for. -/
structure Invocation where
  action : Action
  config? : Option String := none
  noColor : Bool := false
deriving DecidableEq, Repr

def isPath (s : String) : Bool := !s.isEmpty

def helpOption : OptionSpec := ⟨"help", some 'h', .stop .help⟩

/-- The options that every level has. -/
def globalOptions : List OptionSpec :=
  [⟨"config", some 'c', .value isPath⟩,
   ⟨"verbose", some 'v', .repeats⟩,
   ⟨"no-color", none, .nothing⟩,
   helpOption]

def topLevel : Level where
  options := ⟨"version", some 'V', .stop .version⟩ :: globalOptions
  operands := .commands ["check", "rules", "config", "help"]

def checkLevel : Level where
  options :=
    [⟨"dialect", some 'd', .values fun s => (Dialect.ofKey? s).isSome⟩,
     ⟨"format", some 'f', .value fun s => (OutputFormat.ofName? s).isSome⟩,
     ⟨"fix", none, .nothing⟩,
     ⟨"diff", none, .nothing⟩,
     ⟨"include", none, .values fun _ => true⟩,
     ⟨"exclude", none, .values fun _ => true⟩] ++ globalOptions
  operands := .paths

def rulesLevel : Level where
  options :=
    [⟨"dialect", some 'd', .value fun s => (Dialect.ofKey? s).isSome⟩,
     ⟨"format", some 'f', .value fun s => (ListFormat.ofName? s).isSome⟩] ++ globalOptions
  operands := .none

def configLevel : Level where
  options := globalOptions
  operands := .commands ["schema", "show", "help"]

def lastLevel : Level where
  options := globalOptions
  operands := .none

def configTopics : List (List String) :=
  [[], ["schema"], ["show"], ["help"]]

def topTopics : List (List String) :=
  [[], ["check"], ["rules"], ["help"]] ++ configTopics.map ("config" :: ·)

/-- Reads a level without operands that are commands. -/
def readLast (level : Level) (args : List String) : Except Stop Given := do
  return (← readLevel level false none {} args).1

/-- Reads a level that ends in a command. Help can be asked for about the given topics. -/
def readCommand (level : Level) (topics : List (List String)) (args : List String) :
    Except Stop (Given × String × List String) := do
  match ← readLevel level false none {} args with
  | (_, none) => .error .usage
  | (_, some ("help", topic)) => .error (if topics.contains topic then .help else .usage)
  | (g, some (command, rest)) => return (g, command, rest)

/-- The command under the global options of its levels, of which the last level counts first. -/
def invoke (action : Action) (levels : List Given) : Invocation where
  action := action
  config? := (levels.filterMap (·.value? "config")).getLast?
  noColor := levels.any (·.has "no-color")

def checkOptions (g : Given) : CheckOptions where
  paths := g.operands
  dialects := (g.values "dialect").filterMap Dialect.ofKey?
  format := ((g.value? "format").bind OutputFormat.ofName?).getD .human
  fix := g.has "fix"
  diff := g.has "diff"
  included := g.values "include"
  excluded := g.values "exclude"

def parse (args : List String) : Except Stop Invocation := do
  let (top, command, args) ← readCommand topLevel topTopics args
  if command = "check" then
    let g ← readLast checkLevel args
    return invoke (.check (checkOptions g)) [top, g]
  else if command = "rules" then
    let g ← readLast rulesLevel args
    let format := ((g.value? "format").bind ListFormat.ofName?).getD .human
    return invoke (.rules ((g.value? "dialect").bind Dialect.ofKey?) format) [top, g]
  else
    let (g, command, args) ← readCommand configLevel configTopics args
    let last ← readLast lastLevel args
    let action : Action := if command = "schema" then .configSchema else .configShow
    return invoke action [top, g, last]

end Command

end StructTags
