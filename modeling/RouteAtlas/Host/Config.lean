import RouteAtlas.BuildOptions
import RouteAtlas.Host.Failure
import RouteAtlas.Toml.Document

/-! # Configurations

What the configuration file of a module says: the arguments of the build, and where the sources go
and in which language. Everything has a default, and other things in the file do not matter.
-/

namespace RouteAtlas

open Toml (Members)

/-- What the configuration file of a module says. -/
structure Config where
  args : SortedMap String String := .empty
  directory : String := "./build/generated/arouter"
  language : String := "kotlin"
  /-- Directory of the route document, if it is not that of the sources. -/
  docsDirectory : Option String := none
  deriving DecidableEq

instance : Inhabited Config := ⟨{}⟩

namespace Config

def text? : Toml.Value → Option String
  | .text content => some content
  | _ => none

/-- A member that is a text or may be left out. -/
def optionalText (members : Members) (name : String) : Option (Option String) :=
  match members.lookup name with
  | none => some none
  | some value => (text? value).map some

def readArgs (value : Toml.Value) : Option (SortedMap String String) := do
  let args ← (← value.members?).mapM fun (name, content) => (text? content).map (name, ·)
  return .ofList args

/-- Where the sources go and in which language: a table, or the three texts in a row. -/
def readOutput (config : Config) : Toml.Value → Option Config
  | .array (directory :: language :: docsDirectory :: _) => do
    return { config with
      directory := ← text? directory
      language := ← text? language
      docsDirectory := some (← text? docsDirectory) }
  | value => do
    let members ← value.members?
    let directory ← optionalText members "dir"
    let language ← optionalText members "backend"
    let docsDirectory ← optionalText members "docs_dir"
    return { config with
      directory := directory.getD config.directory
      language := language.getD config.language
      docsDirectory }

/-- The configuration that the members of a document give. -/
def ofMembers (members : Members) : Option Config := do
  let args ← match members.lookup "args" with
    | some value => readArgs value
    | none => some .empty
  match members.lookup "output" with
  | some value => readOutput { args } value
  | none => some { args }

/-- The configuration that a text gives. -/
def parse (text : String) : Option Config :=
  (Toml.parse text).bind ofMembers

/-- A line that gives a text to a name. -/
def settingLine (name content : String) : String :=
  let plain := !name.isEmpty && name.toList.all Toml.isNameChar
  let written := if plain then name.toList else Toml.Quoted.writeBasic name.toList
  String.ofList (written ++ [' ', '=', ' '] ++ Toml.Quoted.write content.toList ++ ['\n'])

def write (config : Config) : String :=
  let args := config.args.entries.map fun (name, content) => settingLine name content
  "[args]\n" ++ String.join args ++ "\n[output]\n" ++ settingLine "dir" config.directory
    ++ settingLine "backend" config.language
    ++ (config.docsDirectory.map (settingLine "docs_dir")).getD ""

/-- The language of a valid configuration. -/
def check (config : Config) : Except Failure Language :=
  if config.directory.isEmpty then .error .emptyDirectory
  else
    match Language.ofName? config.language with
    | none => .error (.unknownLanguage config.language)
    | some language =>
      match config.args.get? Contract.moduleKey with
      | none => .ok language
      | some name =>
        if (BuildOptions.usableName? name).isSome then .ok language
        else .error (.unusableModule name)

def options (config : Config) : BuildOptions :=
  .ofArgs config.args

/-- Directory of the route document. -/
def docsPlace (config : Config) : String :=
  config.docsDirectory.getD config.directory

end Config

namespace FileTree

def loadConfig (tree : FileTree) (path : String) : Except Failure Config :=
  match tree.read path with
  | .error _ => .error (.unreadableConfig path)
  | .ok text =>
    match Config.parse text with
    | none => .error (.malformedConfig path)
    | some config => config.check.map fun _ => config

/-- The valid configuration in a file, or the default one if there is no file. -/
def loadConfigOrDefault (tree : FileTree) (path : String) : Except Failure Config :=
  if tree.exists? path then tree.loadConfig path else .ok {}

end FileTree

end RouteAtlas
