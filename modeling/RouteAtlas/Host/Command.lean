import RouteAtlas.Host.Arguments
import RouteAtlas.Host.Configure
import RouteAtlas.Host.Generate
import RouteAtlas.Host.Inspect

/-! # Commands

What the command line can ask for: generating sources, inspecting and searching snapshots, and
managing the configuration.
-/

namespace RouteAtlas

/-- Wording of why a command line is not run. -/
def UsageStop.message : UsageStop → String
  | .help => "Usage: arouter-gen [OPTIONS] <generate|inspect|search|config>"
  | .version => "arouter-gen 0.1.0"
  | .unknownArgument => "error: unexpected argument"
  | .unknownCommand => "error: unrecognized subcommand"
  | .missingArgument => "error: a required argument was not provided"
  | .missingCommand | .nothingGiven => "error: a subcommand is required"
  | .invalidValue => "error: a value is required"
  | .unwantedValue => "error: unexpected value"
  | .repeatedOption => "error: an argument cannot be used multiple times"

inductive Command where
  | generate (request : GenerateRequest)
  | inspect (symbols : String) (name : Option String) (json : Bool)
  | search (symbols query : String)
  | initConfig (moduleName : Option String) (docs : Bool)
  | validateConfig
  deriving DecidableEq, Repr

/-- A command with the configuration file that it goes by. -/
structure Invocation where
  configPath : String := "arouter.toml"
  command : Command
  deriving DecidableEq, Repr

namespace Invocation

def commonOptions : List Parameter :=
  [⟨"config", some 'c', .single, false, false⟩, ⟨"verbose", none, .flag, false, false⟩,
    ⟨"json-logs", none, .flag, false, false⟩, ⟨"help", some 'h', .help, false, false⟩]

def valueOption (name : String) (letter : Char) : Parameter :=
  { name, letter := some letter }

def neededPath (name : String) : Parameter :=
  { name, isPath := true, required := true }

def generateShape : CommandShape where
  name := "generate"
  options :=
    [{ neededPath "symbols" with letter := some 's', use := .repeated },
      { valueOption "output" 'o' with isPath := true }, valueOption "module" 'm',
      valueOption "backend" 'b', { name := "docs", use := .flag },
      { name := "docs-dir", isPath := true }] ++ commonOptions

def inspectShape : CommandShape where
  name := "inspect"
  options := [valueOption "name" 'n', { name := "json", use := .flag }] ++ commonOptions
  operands := [neededPath "symbols"]

def searchShape : CommandShape where
  name := "search"
  options := commonOptions
  operands := [neededPath "symbols", { name := "query", required := true }]

/-- The command that writes a first configuration. -/
def initShape : CommandShape where
  name := "init"
  options := [valueOption "module" 'm', { name := "docs", use := .flag }] ++ commonOptions

/-- The command that checks a configuration. -/
def validateShape : CommandShape where
  name := "validate"
  options := commonOptions

def configShape : CommandShape where
  name := "config"
  options := commonOptions
  commands := [initShape, validateShape]
  needsCommand := true

/-- The whole command line. -/
def shape : CommandShape where
  name := "arouter-gen"
  options := { name := "version", letter := some 'V', use := .version } :: commonOptions
  commands := [generateShape, inspectShape, searchShape, configShape]

/-- The command that arguments ask for; without one there is only help to be had. -/
def command? (arguments : Arguments) : Option Command :=
  match arguments.path with
  | ["generate"] => some <| .generate
    { symbols := arguments.values "symbols"
      directory := arguments.value? "output"
      moduleName := arguments.value? "module"
      language := arguments.value? "backend"
      docs := arguments.has "docs"
      docsDirectory := arguments.value? "docs-dir" }
  | ["inspect"] => do
    let symbols ← arguments.value? "symbols"
    return .inspect symbols (arguments.value? "name") (arguments.has "json")
  | ["search"] => do
    return .search (← arguments.value? "symbols") (← arguments.value? "query")
  | ["config", "init"] => some (.initConfig (arguments.value? "module") (arguments.has "docs"))
  | ["config", "validate"] => some .validateConfig
  | _ => none

/-- What a command line asks for. -/
def ofWords (words : List String) : Except UsageStop Invocation := do
  let arguments ← shape.read words
  match command? arguments with
  | some command => .ok ⟨(arguments.value? "config").getD "arouter.toml", command⟩
  | none => .error .help

/-- The files that are read for what is asked for. -/
def inputs (invocation : Invocation) : List String :=
  invocation.configPath ::
    match invocation.command with
    | .generate request => request.symbols
    | .inspect symbols _ _ | .search symbols _ => [symbols]
    | _ => []

/-- The directories that are written to for what is asked for, where the configuration is among the
    given files. -/
def outputs (invocation : Invocation) (tree : FileTree) : List String :=
  match invocation.command, tree.loadConfigOrDefault invocation.configPath with
  | .generate request, .ok stored =>
    let config := stored.override request
    [config.directory, config.docsPlace]
  | _, _ => []

/-- Do what is asked for. -/
def work (invocation : Invocation) : Work Unit :=
  match invocation.command with
  | .generate request => RouteAtlas.generate invocation.configPath request
  | .inspect symbols name json => RouteAtlas.inspect symbols name json
  | .search symbols query => RouteAtlas.search symbols query
  | .initConfig moduleName docs => RouteAtlas.initConfig invocation.configPath moduleName docs
  | .validateConfig => RouteAtlas.validateConfig invocation.configPath

/-- Do what is asked for with the given files: why it failed, if it did, and what it left. -/
def run (invocation : Invocation) (tree : FileTree) : Option Failure × Desk :=
  match invocation.work.run { tree } with
  | (.ok _, desk) => (none, desk)
  | (.error failure, desk) => (some failure, desk)

end Invocation

end RouteAtlas
